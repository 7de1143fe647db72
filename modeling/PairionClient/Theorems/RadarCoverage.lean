import PairionClient.Lemmas.OsmBackground
import PairionClient.Lib.Grid
import PairionClient.Overlays.WeatherRadarOverlay

/-!
# What the radar tiles cover

The number of rows and columns is that of tiles of 256 pixels, but a tile is drawn as large as the map shows it: on a map of a
lower zoom it is smaller, and then there are too few. The cull is right at every size.
-/

namespace PairionClient

open OsmBackground

namespace RadarSquare

/-- A pixel is on a tile, or on its edge. -/
def Contains (s : RadarSquare) (q : ℝ × ℝ) : Prop :=
  (s.p1.1 ≤ q.1 ∧ q.1 ≤ s.p2.1) ∧ s.p1.2 ≤ q.2 ∧ q.2 ≤ s.p2.2

/-- A tile has a pixel of the viewport. -/
def Meets (width height : ℝ) (s : RadarSquare) : Prop := ∃ q, InView width height q.1 q.2 ∧ s.Contains q

/-- The cull only drops tiles without a pixel of the viewport. -/
theorem not_culled_of_meets {width height : ℝ} {s : RadarSquare} (h : s.Meets width height) : ¬s.Culled width height := by
  obtain ⟨q, ⟨⟨hx, hxw⟩, hy, hyh⟩, ⟨hleft, hright⟩, htop, hbottom⟩ := h
  have htw : 0 ≤ s.tw := sub_nonneg.2 (hleft.trans hright)
  have hth : 0 ≤ s.th := sub_nonneg.2 (htop.trans hbottom)
  rintro ((hculled | hculled) | hculled | hculled) <;> linarith

end RadarSquare

namespace WeatherRadarOverlay

variable {p : MapParams ℝ} {zoom : Option ℝ} {width height : ℝ} {host path : String}

/-- The squares are those of the columns and rows around the centre, on the world and not culled. -/
theorem mem_squaresAround {bg : BackgroundView} {vw vh cLat cLon : ℝ} {z : ℤ} {s : RadarSquare} :
    s ∈ squaresAround bg host path vw vh z cLat cLon ↔
      ∃ ty : ℤ, (⌊pixelY (2 ^ z) cLat⌋ - (⌈vh / 256 / 2⌉ + 2) ≤ ty ∧ ty ≤ ⌊pixelY (2 ^ z) cLat⌋ + (⌈vh / 256 / 2⌉ + 2)) ∧
        0 ≤ ty ∧ (ty : ℝ) < 2 ^ z ∧
          ∃ tx : ℤ, (⌊pixelX (2 ^ z) cLon⌋ - (⌈vw / 256 / 2⌉ + 2) ≤ tx ∧ tx ≤ ⌊pixelX (2 ^ z) cLon⌋ + (⌈vw / 256 / 2⌉ + 2)) ∧
            ¬(square bg host path z tx ty).Culled vw vh ∧ s = square bg host path z tx ty := by
  simp only [squaresAround, List.mem_flatMap, List.mem_filter, List.mem_map, Int.mem_range_iff, decide_eq_true_eq, not_or,
    not_lt, not_le, Int.lt_add_one_iff]
  constructor
  · rintro ⟨ty, ⟨hrows, hzero, hlt⟩, ⟨tx, hcolumns, rfl⟩, hkept⟩
    exact ⟨ty, hrows, hzero, hlt, tx, hcolumns, hkept, rfl⟩
  · rintro ⟨ty, hrows, hzero, hlt, tx, hcolumns, hkept, rfl⟩
    exact ⟨ty, ⟨hrows, hzero, hlt⟩, ⟨tx, hcolumns, rfl⟩, hkept⟩

/-! ## Places in radar tiles -/

/-- How large a radar tile is on the screen. -/
noncomputable def drawnSize (p : MapParams ℝ) (zoom : Option ℝ) : ℝ := worldSizeOf p / 2 ^ radarZoom zoom

/-- The centre of the screen, in radar tiles. -/
noncomputable def centreX (p : MapParams ℝ) (zoom : Option ℝ) : ℝ :=
  pixelX (2 ^ radarZoom zoom) (orDefault p.centerLon defaultLon)

noncomputable def centreY (p : MapParams ℝ) (zoom : Option ℝ) : ℝ :=
  pixelY (2 ^ radarZoom zoom) (orDefault p.centerLat defaultLat)

/-- Where on the screen a place in radar tiles is. -/
noncomputable def place (p : MapParams ℝ) (zoom : Option ℝ) (width height u v : ℝ) : ℝ × ℝ :=
  ((u - centreX p zoom) * drawnSize p zoom + width * (1 / 2), (v - centreY p zoom) * drawnSize p zoom + height * (1 / 2))

/-- A tile is drawn with a positive width. -/
theorem drawnSize_pos (p : MapParams ℝ) (zoom : Option ℝ) : 0 < drawnSize p zoom :=
  div_pos (worldSizeOf_pos p) (by positivity)

/-- The background draws a place where its radar tile has it. -/
theorem latLonToScreen_place (p : MapParams ℝ) (zoom : Option ℝ) (width height lat lon : ℝ) :
    latLonToScreen p width height lat lon =
      place p zoom width height (pixelX (2 ^ radarZoom zoom) lon) (pixelY (2 ^ radarZoom zoom) lat) := by
  have hn : (2 : ℝ) ^ radarZoom zoom ≠ 0 := by positivity
  have hsize : worldSizeOf p = 2 ^ radarZoom zoom * drawnSize p zoom := by rw [drawnSize, mul_div_cancel₀ _ hn]
  rw [latLonToScreen_eq, offsetX, offsetY, hsize]
  simp only [pixelX_mul, pixelY_mul]
  rw [place, centreX, centreY, sub_mul, sub_mul]

/-- The corner of a tile. -/
theorem latLonToScreen_tileNW (p : MapParams ℝ) (zoom : Option ℝ) (width height : ℝ) (tx ty : ℤ) :
    latLonToScreen p width height (tileNW (radarZoom zoom) tx ty).1 (tileNW (radarZoom zoom) tx ty).2 =
      place p zoom width height tx ty := by
  have hn : (2 : ℝ) ^ radarZoom zoom ≠ 0 := by positivity
  have hcorner : tileNW (radarZoom zoom) tx ty = (latAt (2 ^ radarZoom zoom) ty, lonAt (2 ^ radarZoom zoom) tx) := rfl
  rw [latLonToScreen_place p zoom, hcorner, pixelX_lonAt, pixelY_latAt hn, div_mul_cancel₀ _ hn, div_mul_cancel₀ _ hn]

/-- A square contains the points of its column and row. -/
theorem square_contains_iff (u v : ℝ) (tx ty : ℤ) :
    (square (view p width height) host path (radarZoom zoom) tx ty).Contains (place p zoom width height u v) ↔
      (tx ≤ u ∧ u ≤ tx + 1) ∧ ty ≤ v ∧ v ≤ ty + 1 := by
  have hT := drawnSize_pos p zoom
  have hside : ∀ (c e a b : ℝ), (a - c) * drawnSize p zoom + e ≤ (b - c) * drawnSize p zoom + e ↔ a ≤ b := by
    intro c e a b
    rw [add_le_add_iff_right, mul_le_mul_iff_left₀ hT, sub_le_sub_iff_right]
  have hp1 : (square (view p width height) host path (radarZoom zoom) tx ty).p1 = place p zoom width height tx ty :=
    latLonToScreen_tileNW p zoom width height tx ty
  have hp2 : (square (view p width height) host path (radarZoom zoom) tx ty).p2 =
      place p zoom width height (tx + 1) (ty + 1) := by
    have hcorner := latLonToScreen_tileNW p zoom width height (tx + 1) (ty + 1)
    push_cast at hcorner
    exact hcorner
  rw [RadarSquare.Contains, hp1, hp2]
  simp only [place, hside]

/-- The screen shows the columns and rows within half its size of the centre. -/
theorem inView_place_iff (u v : ℝ) :
    InView width height (place p zoom width height u v).1 (place p zoom width height u v).2 ↔
      (centreX p zoom - width / 2 / drawnSize p zoom ≤ u ∧ u ≤ centreX p zoom + width / 2 / drawnSize p zoom) ∧
        centreY p zoom - height / 2 / drawnSize p zoom ≤ v ∧ v ≤ centreY p zoom + height / 2 / drawnSize p zoom := by
  have hT := drawnSize_pos p zoom
  have hside : ∀ c r a : ℝ, |(a - c) * drawnSize p zoom| ≤ r / 2 ↔
      c - r / 2 / drawnSize p zoom ≤ a ∧ a ≤ c + r / 2 / drawnSize p zoom := by
    intro c r a
    rw [abs_mul, abs_of_pos hT, ← le_div_iff₀ hT, abs_le]
    constructor <;> rintro ⟨hlow, hhigh⟩ <;> constructor <;> linarith
  rw [InView, place]
  dsimp only
  rw [inView_iff, inView_iff, hside, hside]

/-! ## The window of rows and columns -/

/-- The columns of the loops, and the rows of them that are on the world. -/
noncomputable def firstColumn (p : MapParams ℝ) (zoom : Option ℝ) (width : ℝ) : ℤ :=
  ⌊centreX p zoom⌋ - (⌈width / 256 / 2⌉ + 2)

noncomputable def lastColumn (p : MapParams ℝ) (zoom : Option ℝ) (width : ℝ) : ℤ :=
  ⌊centreX p zoom⌋ + (⌈width / 256 / 2⌉ + 2)

noncomputable def firstRow (p : MapParams ℝ) (zoom : Option ℝ) (height : ℝ) : ℤ :=
  max 0 (⌊centreY p zoom⌋ - (⌈height / 256 / 2⌉ + 2))

noncomputable def lastRow (p : MapParams ℝ) (zoom : Option ℝ) (height : ℝ) : ℤ :=
  min (2 ^ (radarZoom zoom).toNat - 1) (⌊centreY p zoom⌋ + (⌈height / 256 / 2⌉ + 2))

/-- The part of the world that is on the screen, from top to bottom, in radar tiles. -/
noncomputable def top (p : MapParams ℝ) (zoom : Option ℝ) (height : ℝ) : ℝ :=
  max 0 (centreY p zoom - height / 2 / drawnSize p zoom)

noncomputable def bottom (p : MapParams ℝ) (zoom : Option ℝ) (height : ℝ) : ℝ :=
  min (2 ^ radarZoom zoom) (centreY p zoom + height / 2 / drawnSize p zoom)

/-- Where there is any of the world on the screen, the columns reach both sides of the screen, and the rows its top and
its bottom or those of the world. -/
def Reaches (p : MapParams ℝ) (zoom : Option ℝ) (width height : ℝ) : Prop :=
  top p zoom height ≤ bottom p zoom height →
    (firstColumn p zoom width ≤ centreX p zoom - width / 2 / drawnSize p zoom ∧
      centreX p zoom + width / 2 / drawnSize p zoom ≤ lastColumn p zoom width + 1) ∧
    firstRow p zoom height ≤ lastRow p zoom height ∧ firstRow p zoom height ≤ top p zoom height ∧
      bottom p zoom height ≤ lastRow p zoom height + 1

/-- What the list is for: each pixel of the screen whose latitude is in the band is on a tile of it, and the cull drops no
tile that has a pixel of the screen. -/
structure CoversMap (p : MapParams ℝ) (zoom : Option ℝ) (width height : ℝ) (host path : String) : Prop where
  covers : ∀ lat lon, |lat| ≤ bandLat →
    InView width height (latLonToScreen p width height lat lon).1 (latLonToScreen p width height lat lon).2 →
      ∃ s ∈ squares ⟨some (view p width height), zoom, width, height⟩ host path,
        s.Contains (latLonToScreen p width height lat lon)
  cull : ∀ tx ty, (square (view p width height) host path (radarZoom zoom) tx ty).Meets width height →
    ¬(square (view p width height) host path (radarZoom zoom) tx ty).Culled width height

/-- The radar's zoom is the background's between 4 and 8. -/
theorem radarZoom_some {q : ℝ} (h : q ≠ 0) : radarZoom (some q) = max 4 (min ⌊q⌋ 8) := by
  simp only [radarZoom, if_neg h]

/-- The zoom is not negative, so that the power is one of integers. -/
theorem toNat_radarZoom (zoom : Option ℝ) : (((2 : ℤ) ^ (radarZoom zoom).toNat : ℤ) : ℝ) = 2 ^ radarZoom zoom := by
  have hmax : 4 ≤ radarZoom zoom := le_max_left _ _
  have hzoom : ((radarZoom zoom).toNat : ℤ) = radarZoom zoom := Int.toNat_of_nonneg (by linarith)
  rw [← hzoom, zpow_natCast, Int.toNat_natCast]
  push_cast
  rfl

/-- The list has the squares of its columns and rows that are not culled. -/
theorem mem_squares_iff (hw : 0 < width) (hh : 0 < height) (hhost : host ≠ "") (hpath : path ≠ "") {s : RadarSquare} :
    s ∈ squares ⟨some (view p width height), zoom, width, height⟩ host path ↔
      ∃ tx ty : ℤ, (firstColumn p zoom width ≤ tx ∧ tx ≤ lastColumn p zoom width) ∧
        (firstRow p zoom height ≤ ty ∧ ty ≤ lastRow p zoom height) ∧
          ¬(square (view p width height) host path (radarZoom zoom) tx ty).Culled width height ∧
            s = square (view p width height) host path (radarZoom zoom) tx ty := by
  have hn : (2 : ℝ) ^ radarZoom zoom = ((2 ^ (radarZoom zoom).toNat : ℤ) : ℝ) := (toNat_radarZoom zoom).symm
  have hsquares : squares ⟨some (view p width height), zoom, width, height⟩ host path =
      squaresAround (view p width height) host path width height (radarZoom zoom) (orDefault p.centerLat defaultLat)
        (orDefault p.centerLon defaultLon) := by
    have hguard : ¬(path = "" ∨ host = "") := not_or.2 ⟨hpath, hhost⟩
    simp only [squares, if_neg hguard, if_pos hw, if_pos hh]
    rfl
  rw [hsquares, mem_squaresAround]
  change (∃ ty : ℤ, (⌊centreY p zoom⌋ - _ ≤ ty ∧ ty ≤ ⌊centreY p zoom⌋ + _) ∧ 0 ≤ ty ∧ (ty : ℝ) < 2 ^ radarZoom zoom ∧
    ∃ tx : ℤ, (firstColumn p zoom width ≤ tx ∧ tx ≤ lastColumn p zoom width) ∧ _) ↔ _
  simp only [hn, Int.cast_lt, firstRow, lastRow, max_le_iff, le_min_iff, Int.le_sub_one_iff]
  constructor
  · rintro ⟨ty, ⟨hfirst, hlast⟩, hzero, hlt, tx, hcolumns, hkept, rfl⟩
    exact ⟨tx, ty, hcolumns, ⟨⟨hzero, hfirst⟩, hlt, hlast⟩, hkept, rfl⟩
  · rintro ⟨tx, ty, hcolumns, ⟨⟨hzero, hfirst⟩, hlt, hlast⟩, hkept, rfl⟩
    exact ⟨ty, ⟨hfirst, hlast⟩, hzero, hlt, tx, hcolumns, hkept, rfl⟩

/-- A tile is drawn at the rounded place of its corner. -/
theorem exists_place_of_mem (hw : 0 < width) (hh : 0 < height) (hhost : host ≠ "") (hpath : path ≠ "") {t : RadarTile}
    (ht : t ∈ buildTileList ⟨some (view p width height), zoom, width, height⟩ host path) :
    ∃ tx ty : ℤ, t.x = round (place p zoom width height tx ty).1 ∧ t.y = round (place p zoom width height tx ty).2 := by
  obtain ⟨sq, hsq, rfl⟩ := List.mem_map.1 ht
  obtain ⟨tx, ty, -, -, -, rfl⟩ := (mem_squares_iff hw hh hhost hpath).1 hsq
  have hcorner := latLonToScreen_tileNW p zoom width height tx ty
  exact ⟨tx, ty, by rw [← hcorner]; rfl, by rw [← hcorner]; rfl⟩

/-- A pixel of the screen is covered where its row and its column are in the loops. -/
theorem exists_contains_iff (hw : 0 < width) (hh : 0 < height) (hhost : host ≠ "") (hpath : path ≠ "") {u v : ℝ}
    (hview : InView width height (place p zoom width height u v).1 (place p zoom width height u v).2) :
    (∃ s ∈ squares ⟨some (view p width height), zoom, width, height⟩ host path, s.Contains (place p zoom width height u v)) ↔
      (∃ tx : ℤ, firstColumn p zoom width ≤ tx ∧ tx ≤ lastColumn p zoom width ∧ tx ≤ u ∧ u ≤ tx + 1) ∧
        ∃ ty : ℤ, firstRow p zoom height ≤ ty ∧ ty ≤ lastRow p zoom height ∧ ty ≤ v ∧ v ≤ ty + 1 := by
  constructor
  · rintro ⟨s, hs, hcontains⟩
    obtain ⟨tx, ty, ⟨hfirst, hlast⟩, ⟨hfirst', hlast'⟩, -, rfl⟩ := (mem_squares_iff hw hh hhost hpath).1 hs
    obtain ⟨⟨hleft, hright⟩, htop, hbottom⟩ := (square_contains_iff u v tx ty).1 hcontains
    exact ⟨⟨tx, hfirst, hlast, hleft, hright⟩, ty, hfirst', hlast', htop, hbottom⟩
  · rintro ⟨⟨tx, hfirst, hlast, hleft, hright⟩, ty, hfirst', hlast', htop, hbottom⟩
    have hcontains : (square (view p width height) host path (radarZoom zoom) tx ty).Contains (place p zoom width height u v) :=
      (square_contains_iff u v tx ty).2 ⟨⟨hleft, hright⟩, htop, hbottom⟩
    refine ⟨_, (mem_squares_iff hw hh hhost hpath).2 ⟨tx, ty, ⟨hfirst, hlast⟩, ⟨hfirst', hlast'⟩, ?_, rfl⟩, hcontains⟩
    exact RadarSquare.not_culled_of_meets ⟨_, hview, hcontains⟩

/-- A place is on the part of the world that is on the screen. -/
theorem mem_part_iff (v : ℝ) : top p zoom height ≤ v ∧ v ≤ bottom p zoom height ↔
    (0 ≤ v ∧ v ≤ 2 ^ radarZoom zoom) ∧
      centreY p zoom - height / 2 / drawnSize p zoom ≤ v ∧ v ≤ centreY p zoom + height / 2 / drawnSize p zoom := by
  rw [top, bottom, max_le_iff, le_min_iff]
  tauto

/-- The pixels of the screen in the band are the places on the part of the world that is on the screen. -/
theorem covers_iff_places (hw : 0 < width) (hh : 0 < height) (hhost : host ≠ "") (hpath : path ≠ "") :
    (∀ lat lon, |lat| ≤ bandLat →
      InView width height (latLonToScreen p width height lat lon).1 (latLonToScreen p width height lat lon).2 →
        ∃ s ∈ squares ⟨some (view p width height), zoom, width, height⟩ host path,
          s.Contains (latLonToScreen p width height lat lon)) ↔
      ∀ u v, centreX p zoom - width / 2 / drawnSize p zoom ≤ u → u ≤ centreX p zoom + width / 2 / drawnSize p zoom →
        top p zoom height ≤ v → v ≤ bottom p zoom height →
          (∃ tx : ℤ, firstColumn p zoom width ≤ tx ∧ tx ≤ lastColumn p zoom width ∧ tx ≤ u ∧ u ≤ tx + 1) ∧
            ∃ ty : ℤ, firstRow p zoom height ≤ ty ∧ ty ≤ lastRow p zoom height ∧ ty ≤ v ∧ v ≤ ty + 1 := by
  have hn : (0 : ℝ) < 2 ^ radarZoom zoom := by positivity
  constructor
  · intro h u v hlow hhigh htop hbottom
    obtain ⟨hworld, hscreen⟩ := (mem_part_iff v).1 ⟨htop, hbottom⟩
    have hview : InView width height (place p zoom width height u v).1 (place p zoom width height u v).2 :=
      (inView_place_iff u v).2 ⟨⟨hlow, hhigh⟩, hscreen⟩
    have hcorner : latLonToScreen p width height (latAt (2 ^ radarZoom zoom) v) (lonAt (2 ^ radarZoom zoom) u) =
        place p zoom width height u v := by
      rw [latLonToScreen_place p zoom, pixelX_lonAt, pixelY_latAt hn.ne', div_mul_cancel₀ _ hn.ne', div_mul_cancel₀ _ hn.ne']
    have hband : |latAt (2 ^ radarZoom zoom) v| ≤ bandLat := by
      rw [abs_le_bandLat_iff hn (abs_latAt_lt _ v), pixelY_latAt hn.ne', div_mul_cancel₀ _ hn.ne']
      exact hworld
    have hcovered := h (latAt (2 ^ radarZoom zoom) v) (lonAt (2 ^ radarZoom zoom) u) hband (hcorner ▸ hview)
    rw [hcorner] at hcovered
    exact (exists_contains_iff hw hh hhost hpath hview).1 hcovered
  · intro h lat lon hband hview
    rw [latLonToScreen_place p zoom] at hview ⊢
    obtain ⟨⟨hlow, hhigh⟩, hscreen⟩ := (inView_place_iff _ _).1 hview
    have hworld := (abs_le_bandLat_iff hn (hband.trans_lt bandLat_lt)).1 hband
    obtain ⟨htop, hbottom⟩ := (mem_part_iff _).2 ⟨hworld, hscreen⟩
    exact (exists_contains_iff hw hh hhost hpath hview).2 (h _ _ hlow hhigh htop hbottom)

/-- There the columns and the rows can be looked at apart. -/
theorem covers_iff_reaches (hw : 0 < width) (hh : 0 < height) (hhost : host ≠ "") (hpath : path ≠ "") :
    (∀ lat lon, |lat| ≤ bandLat →
      InView width height (latLonToScreen p width height lat lon).1 (latLonToScreen p width height lat lon).2 →
        ∃ s ∈ squares ⟨some (view p width height), zoom, width, height⟩ host path,
          s.Contains (latLonToScreen p width height lat lon)) ↔ Reaches p zoom width height := by
  have hhalf : 0 < width / 2 / drawnSize p zoom := div_pos (half_pos hw) (drawnSize_pos p zoom)
  have hsides : centreX p zoom - width / 2 / drawnSize p zoom ≤ centreX p zoom + width / 2 / drawnSize p zoom := by linarith
  rw [covers_iff_places hw hh hhost hpath, Reaches]
  constructor
  · intro h hsome
    have hcolumns := (Grid.covers_iff hsides).1 fun u hlow hhigh => (h u _ hlow hhigh le_rfl hsome).1
    have hrows := (Grid.covers_iff hsome).1 fun v htop hbottom => (h _ v le_rfl hsides htop hbottom).2
    exact ⟨hcolumns.2, hrows⟩
  · intro h u v hlow hhigh htop hbottom
    obtain ⟨hcolumns, hrows⟩ := h (htop.trans hbottom)
    have hwindow : firstColumn p zoom width ≤ lastColumn p zoom width := by
      have hceil : 0 ≤ ⌈width / 256 / 2⌉ := Int.ceil_nonneg (by positivity)
      unfold firstColumn lastColumn
      linarith
    refine ⟨?_, ?_⟩
    · exact (Grid.covers_iff hsides).2 ⟨hwindow, hcolumns⟩ u hlow hhigh
    · exact (Grid.covers_iff (htop.trans hbottom)).2 hrows v htop hbottom

/-- A radar tile that is drawn at least as large as it was counted, around a centre on the world. -/
theorem reaches_of_le (hw : 0 < width) (hh : 0 < height) (hzoom : radarZoom zoom ≤ zoomOf p)
    (hcentre : 0 ≤ centreY p zoom ∧ centreY p zoom < 2 ^ radarZoom zoom) : Reaches p zoom width height := by
  have hT : 256 ≤ drawnSize p zoom := by
    rw [drawnSize, le_div_iff₀ (by positivity), worldSizeOf]
    exact mul_le_mul_of_nonneg_left (zpow_le_zpow_right₀ one_le_two hzoom) (by norm_num)
  have hwindow : ∀ (c : ℝ) {v : ℝ}, 0 < v →
      ((⌊c⌋ - (⌈v / 256 / 2⌉ + 2) : ℤ) : ℝ) ≤ c - v / 2 / drawnSize p zoom ∧
        c + v / 2 / drawnSize p zoom ≤ ((⌊c⌋ + (⌈v / 256 / 2⌉ + 2) : ℤ) : ℝ) + 1 := by
    intro c v hv
    have hhalf : v / 2 / drawnSize p zoom ≤ ⌈v / 256 / 2⌉ := by
      refine le_trans ?_ (Int.le_ceil (v / 256 / 2))
      rw [div_right_comm v 256 2]
      exact div_le_div_of_nonneg_left (by positivity) (by norm_num) hT
    have hfloor := Int.floor_le c
    have hlt := Int.lt_floor_add_one c
    push_cast
    constructor <;> linarith
  intro _
  refine ⟨hwindow _ hw, ?_, ?_, ?_⟩
  · have hzero : 0 ≤ ⌊centreY p zoom⌋ := Int.floor_nonneg.2 hcentre.1
    have hlt : ⌊centreY p zoom⌋ < 2 ^ (radarZoom zoom).toNat := by
      rw [Int.floor_lt, toNat_radarZoom]
      exact hcentre.2
    have hceil : 0 ≤ ⌈height / 256 / 2⌉ := Int.ceil_nonneg (by positivity)
    unfold firstRow lastRow
    omega
  · rw [firstRow, top, Int.cast_max, Int.cast_zero]
    exact max_le_max_left 0 (hwindow _ hh).1
  · rw [lastRow, bottom, Int.cast_min, Int.cast_sub, toNat_radarZoom, Int.cast_one, ← min_add_add_right, sub_add_cancel]
    exact min_le_min_left _ (hwindow _ hh).2

/-- On every screen, with every zoom of the map and of the radar and every centre: the list covers the map on the screen,
and the cull is sound, if and only if the rows and columns reach the sides of what is on the screen. -/
theorem radar_covers_iff (p : MapParams ℝ) (zoom : Option ℝ) (hw : 0 < width) (hh : 0 < height) (hhost : host ≠ "")
    (hpath : path ≠ "") : CoversMap p zoom width height host path ↔ Reaches p zoom width height := by
  constructor
  · intro h
    exact (covers_iff_reaches hw hh hhost hpath).1 h.covers
  · intro h
    exact ⟨(covers_iff_reaches hw hh hhost hpath).2 h, fun _ _ hmeets => RadarSquare.not_culled_of_meets hmeets⟩

/-- A map and a radar of the same zoom. -/
theorem radar_covers_same_zoom :
    CoversMap ⟨some 60, some 10, some 6⟩ (some 6) 800 600 "https://tilecache.rainviewer.com" "/v2" := by
  have hzoom : radarZoom (some 6) = 6 := by
    rw [radarZoom_some (by norm_num), Int.floor_ofNat]
    rfl
  have hmap : zoomOf ⟨some 60, some 10, some 6⟩ = 6 :=
    (zoomOf_some (by norm_num)).trans (Int.floor_ofNat 6)
  refine (radar_covers_iff _ _ (by norm_num) (by norm_num) (by decide) (by decide)).2 ?_
  refine reaches_of_le (by norm_num) (by norm_num) (hzoom.trans hmap.symm).le ?_
  have hlat : orDefault (some (60 : ℝ)) defaultLat = 60 := orDefault_some (by norm_num)
  rw [centreY, hlat]
  obtain ⟨htop, hbottom⟩ := pixelY_mem (by positivity : (0 : ℝ) < 2 ^ radarZoom (some 6)) (by norm_num : |(60 : ℝ)| < 85)
  exact ⟨htop.le, hbottom⟩

/-- A street map of zoom 1 under a radar of zoom 8: a tile is drawn 2 pixels wide, and nine of them are 18 pixels. -/
theorem radar_covers_false :
    ¬CoversMap ⟨some 60, some 10, some 1⟩ (some 8) 800 600 "https://tilecache.rainviewer.com" "/v2" := by
  intro h
  have hreaches := (covers_iff_reaches (by norm_num) (by norm_num) (by decide) (by decide)).1 h.covers
  have hzoom : radarZoom (some 8) = 8 := by
    rw [radarZoom_some (by norm_num), Int.floor_ofNat]
    rfl
  have hsize : drawnSize ⟨some 60, some 10, some 1⟩ (some 8) = 2 := by
    rw [drawnSize, worldSizeOf, zoomOf_some one_ne_zero, hzoom, Int.floor_one]
    norm_num
  have hlat : orDefault (some (60 : ℝ)) defaultLat = 60 := orDefault_some (by norm_num)
  obtain ⟨htop, hbottom⟩ := pixelY_mem (by positivity : (0 : ℝ) < 2 ^ radarZoom (some 8)) (by norm_num : |(60 : ℝ)| < 85)
  have hsome : top ⟨some 60, some 10, some 1⟩ (some 8) 600 ≤ bottom ⟨some 60, some 10, some 1⟩ (some 8) 600 := by
    rw [top, bottom, centreY, hlat, hsize, max_le_iff, le_min_iff, le_min_iff]
    refine ⟨⟨by positivity, by linarith⟩, by linarith, by linarith⟩
  have hleft := (hreaches hsome).1.1
  have hceil : ⌈(800 : ℝ) / 256 / 2⌉ = 2 := by norm_num [Int.ceil_eq_iff]
  rw [firstColumn, hceil, hsize] at hleft
  have hfloor := Int.lt_floor_add_one (centreX ⟨some 60, some 10, some 1⟩ (some 8))
  push_cast at hleft
  linarith

end WeatherRadarOverlay

end PairionClient
