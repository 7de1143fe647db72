import PairionClient.Overlays.WeatherRadarOverlay
import PairionClient.Theorems.OsmTiles
import PairionClient.Lemmas.OsmBackground

/-!
# The centre and the zoom supplied

Three readers take the parameters, each with its defaults, and each takes a 0 for a number that is missing: they agree with each
other, but not with a map that is centred on the equator or on the meridian of Greenwich, or that shows the whole world.
-/

namespace PairionClient

open OsmBackground WeatherRadarOverlay

/-- The size of the screen that is filled with tiles. -/
noncomputable def filledWidth (width : ℝ) : ℝ := if width > 0 then width else 2560

noncomputable def filledHeight (height : ℝ) : ℝ := if height > 0 then height else 1440

/-- The three readers take the centre and the zoom that were supplied. -/
structure Honoured (lat lon zoom width height : ℝ) : Prop where
  centre : latLonToScreen ⟨some lat, some lon, some zoom⟩ width height lat lon = (width * (1 / 2), height * (1 / 2))
  grid : rebuildTiles ⟨some lat, some lon, some zoom⟩ width height =
    tilesAround (filledWidth width) (filledHeight height) ⌊zoom⌋ (pixelX (256 * 2 ^ ⌊zoom⌋) lon)
      (pixelY (256 * 2 ^ ⌊zoom⌋) lat)
  radar : ∀ (overlayZoom : Option ℝ) (host path : String), host ≠ "" → path ≠ "" →
    let bg := view ⟨some lat, some lon, some zoom⟩ width height
    squares ⟨some bg, overlayZoom, width, height⟩ host path =
      squaresAround bg host path (filledWidth width) (filledHeight height) (radarZoom overlayZoom) lat lon

namespace OsmBackground

variable {lat lon zoom width height : ℝ}

/-- The grid is not empty: it has the tile of its centre. -/
theorem centre_mem_rebuildTiles (p : MapParams ℝ) (width height : ℝ) (hlat : |orDefault p.centerLat defaultLat| < 85) :
    ∃ t ∈ rebuildTiles p width height, t.z = zoomOf p := by
  set z := zoomOf p with hz
  set cpx := pixelX (256 * 2 ^ z) (orDefault p.centerLon defaultLon) with hcpx
  set cpy := pixelY (256 * 2 ^ z) (orDefault p.centerLat defaultLat) with hcpy
  have hgrid : rebuildTiles p width height = tilesAround (filledWidth width) (filledHeight height) z cpx cpy := rfl
  have haround : ∀ (v c : ℝ), 0 < v → Around v c ⌊c / 256⌋ := by
    intro v c hv
    have hfloor := around_floor (v := v) (c := c) (u := 0) (by rw [abs_zero]; positivity)
    rwa [add_zero] at hfloor
  have hwidth : 0 < filledWidth width := by
    unfold filledWidth
    split
    · assumption
    · norm_num
  have hheight : 0 < filledHeight height := by
    unfold filledHeight
    split
    · assumption
    · norm_num
  obtain ⟨htop, hbottom⟩ := pixelY_mem (by positivity : (0 : ℝ) < 256 * 2 ^ z) hlat
  obtain ⟨hzero, hlt⟩ := row_mem htop.le hbottom
  rw [hgrid]
  exact ⟨tile _ _ z cpx cpy ⌊cpx / 256⌋ ⌊cpy / 256⌋,
    mem_tilesAround.2 ⟨_, haround _ _ hheight, hzero, hlt, _, haround _ _ hwidth, rfl⟩, rfl⟩

/-- The bridge puts the centre supplied into the middle of the screen where it is the centre of the map. -/
theorem latLonToScreen_centre_iff (hlat : |lat| < 85) :
    latLonToScreen ⟨some lat, some lon, some zoom⟩ width height lat lon = (width * (1 / 2), height * (1 / 2)) ↔
      lat ≠ 0 ∧ lon ≠ 0 := by
  have hW := worldSizeOf_pos ⟨some lat, some lon, some zoom⟩
  have hlat' : |orDefault (some lat) defaultLat| < 90 := by
    unfold orDefault
    dsimp only
    split
    · norm_num [defaultLat, abs_lt]
    · exact hlat.trans (by norm_num)
  have hX : offsetX ⟨some lat, some lon, some zoom⟩ lon = 0 ↔ lon ≠ 0 := by
    rw [← orDefault_eq_iff (d := defaultLon) (by norm_num [defaultLon]), offsetX, sub_eq_zero, pixelX, pixelX,
      mul_left_inj' hW.ne', div_left_inj' (by norm_num), add_left_inj, eq_comm]
  have hY : offsetY ⟨some lat, some lon, some zoom⟩ lat = 0 ↔ lat ≠ 0 := by
    have hlat90 : |lat| < 90 := hlat.trans (by norm_num)
    rw [← orDefault_eq_iff (d := defaultLat) (by norm_num [defaultLat]), offsetY, sub_eq_zero, le_antisymm_iff,
      pixelY_le_iff hW hlat90 hlat', pixelY_le_iff hW hlat' hlat90, ← le_antisymm_iff]
  rw [latLonToScreen_eq, Prod.mk.injEq, add_eq_right, add_eq_right, hX, hY, and_comm]

/-- For every size of the screen: the centre and the zoom that a command supplies are taken by the bridge, by the grid and
by the radar, if and only if none of the three numbers is 0. -/
theorem honoured_iff (hlat : |lat| < 85) : Honoured lat lon zoom width height ↔ lat ≠ 0 ∧ lon ≠ 0 ∧ zoom ≠ 0 := by
  constructor
  · intro h
    obtain ⟨hlat0, hlon0⟩ := (latLonToScreen_centre_iff hlat).1 h.centre
    refine ⟨hlat0, hlon0, ?_⟩
    rintro rfl
    have hcentre : orDefault (some lat) defaultLat = lat := orDefault_some hlat0
    obtain ⟨t, ht, hten⟩ := centre_mem_rebuildTiles ⟨some lat, some lon, some 0⟩ width height (hcentre.symm ▸ hlat)
    rw [h.grid] at ht
    obtain ⟨ty, -, -, -, tx, -, rfl⟩ := mem_tilesAround.1 ht
    have hzero : ⌊(0 : ℝ)⌋ = ⌊orDefault (some (0 : ℝ)) 10⌋ := hten
    have hdefault : orDefault (some (0 : ℝ)) 10 = 10 := if_pos rfl
    rw [hdefault, Int.floor_zero, Int.floor_ofNat] at hzero
    exact absurd hzero (by norm_num)
  · rintro ⟨hlat0, hlon0, hzoom0⟩
    have hcLat : ∀ d : ℝ, orDefault (some lat) d = lat := fun _ => orDefault_some hlat0
    have hcLon : ∀ d : ℝ, orDefault (some lon) d = lon := fun _ => orDefault_some hlon0
    have hzoom : orDefault (some zoom) 10 = zoom := orDefault_some hzoom0
    refine ⟨(latLonToScreen_centre_iff hlat).2 ⟨hlat0, hlon0⟩, ?_, fun overlayZoom host path hhost hpath => ?_⟩
    · rw [rebuildTiles, hzoom, hcLat, hcLon]
      rfl
    · have hguard : ¬(path = "" ∨ host = "") := not_or.2 ⟨hpath, hhost⟩
      simp only [squares, view, if_neg hguard, hcLat, hcLon]
      rfl

/-- The street map of Paris. -/
theorem honoured_paris : Honoured 48.8 2.3 12 800 600 :=
  (honoured_iff (by norm_num [abs_lt])).2 (by norm_num)

/-- On the equator the map is centred on the default latitude. -/
theorem honoured_false : ¬Honoured 0 10 5 800 600 := by
  intro h
  exact ((latLonToScreen_centre_iff (by norm_num)).1 h.centre).1 rfl

end OsmBackground

end PairionClient
