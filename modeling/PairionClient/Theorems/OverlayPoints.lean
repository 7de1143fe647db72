import PairionClient.Lemmas.OsmBackground
import PairionClient.Lib.ShortWay
import PairionClient.Theorems.OsmTiles

/-!
# Points of the overlays on the street map

The grid shows a point at each of its copies, which are whole worlds apart; the bridge gives one of them, that with the
longitude as it is. Where the screen crosses the antimeridian, the copy on the screen may be another one.
-/

namespace PairionClient

open Grid ShortWay

/-- A tile shows a geographic point at a pixel, before rounding: it is a tile of the map, the point is on it, and the
pixel is where the point is on it. -/
def OsmTile.Shows (t : OsmTile ℝ) (lat lon x y : ℝ) : Prop :=
  let worldSize := 256 * (2 : ℝ) ^ t.z
  let px := OsmBackground.pixelX worldSize lon
  let py := OsmBackground.pixelY worldSize lat
  0 ≤ t.z ∧ t.wrappedTX = ⌊px / 256⌋ ∧ t.ty = ⌊py / 256⌋ ∧
    x = t.sx + (px - 256 * ⌊px / 256⌋) ∧ y = t.sy + (py - 256 * ⌊py / 256⌋)

/-- Where some tile shows a point inside the viewport, the bridge gives a pixel inside the viewport at which a tile shows
it. -/
def Lands (p : MapParams ℝ) (width height lat lon : ℝ) : Prop :=
  (∃ t ∈ OsmBackground.rebuildTiles p width height, ∃ x y, t.Shows lat lon x y ∧ InView width height x y) →
    let q := OsmBackground.latLonToScreen p width height lat lon
    InView width height q.1 q.2 ∧ ∃ t ∈ OsmBackground.rebuildTiles p width height, t.Shows lat lon q.1 q.2

namespace OsmBackground

variable {p : MapParams ℝ} {width height cLat cLon zoom lat lon : ℝ}

/-- A point has its pixel on the world. -/
theorem pixelX_mem {W : ℝ} (hW : 0 < W) (hlon : -180 ≤ lon ∧ lon < 180) : 0 ≤ pixelX W lon ∧ pixelX W lon < W := by
  obtain ⟨hlow, hhigh⟩ := hlon
  have hzero : 0 ≤ (lon + 180) / 360 := div_nonneg (by linarith) (by norm_num)
  have hone : (lon + 180) / 360 < 1 := (div_lt_one (by norm_num)).2 (by linarith)
  exact ⟨mul_nonneg hzero hW.le, mul_lt_of_lt_one_left hW hone⟩

/-- The pixels of a tile at which it shows a point: the pixel of the point, or its copy so many worlds on. -/
theorem shows_tile_iff {w h cpx cpy x y : ℝ} (z : ℕ) (hlon : -180 ≤ lon ∧ lon < 180) (tx ty : ℤ) :
    (tile w h (z : ℤ) cpx cpy tx ty).Shows lat lon x y ↔
      ty = ⌊pixelY (256 * 2 ^ z) lat / 256⌋ ∧ y = pixelY (256 * 2 ^ z) lat - cpy + h * (1 / 2) ∧
        ∃ k : ℤ, tx = ⌊(pixelX (256 * 2 ^ z) lon + k * (256 * 2 ^ z)) / 256⌋ ∧
          x = pixelX (256 * 2 ^ z) lon - cpx + w * (1 / 2) + k * (256 * 2 ^ z) := by
  set W : ℝ := 256 * 2 ^ z with hW
  have hWpos : 0 < W := by positivity
  obtain ⟨hzero, hlt⟩ := pixelX_mem hWpos hlon
  set column := ⌊pixelX W lon / 256⌋ with hcolumn
  have hcolumn_mem : 0 ≤ column ∧ column < 2 ^ z := by
    refine ⟨Int.floor_nonneg.2 (div_nonneg hzero (by norm_num)), Int.floor_lt.2 ?_⟩
    rw [div_lt_iff₀ (by norm_num)]
    push_cast
    linarith
  have hcopy : ∀ k : ℤ, ⌊(pixelX W lon + k * W) / 256⌋ = column + k * 2 ^ z := by
    intro k
    have hcells : (pixelX W lon + k * W) / 256 = pixelX W lon / 256 + ((k * 2 ^ z : ℤ) : ℝ) := by
      rw [hW]
      push_cast
      ring
    rw [hcells, Int.floor_add_intCast]
  have hindex : (tx % 2 ^ z = column) ↔ ∃ k : ℤ, tx = column + k * 2 ^ z := by
    constructor
    · intro h
      exact ⟨tx / 2 ^ z, by rw [← h, mul_comm, Int.emod_add_mul_ediv]⟩
    · rintro ⟨k, rfl⟩
      rw [Int.add_mul_emod_self_right, Int.emod_eq_of_lt hcolumn_mem.1 hcolumn_mem.2]
  unfold OsmTile.Shows
  rw [wrappedTX_tile]
  simp only [tile, zpow_natCast, Int.natCast_nonneg, true_and, hcopy]
  rw [← hW, ← hcolumn, Int.cast_inj, hindex]
  constructor
  · rintro ⟨⟨k, rfl⟩, rfl, rfl, rfl⟩
    refine ⟨rfl, by ring, k, rfl, ?_⟩
    rw [hW]
    push_cast
    ring
  · rintro ⟨rfl, rfl, k, rfl, rfl⟩
    refine ⟨⟨k, rfl⟩, rfl, ?_, by ring⟩
    rw [hW]
    push_cast
    ring

/-- No longitude is a whole world away from the centre. -/
theorem abs_offsetX_lt (hlon : -180 ≤ lon ∧ lon < 180)
    (hcentre : -180 ≤ orDefault p.centerLon defaultLon ∧ orDefault p.centerLon defaultLon < 180) :
    |offsetX p lon| < worldSizeOf p := by
  have hW : 0 < worldSizeOf p := by
    unfold worldSizeOf
    positivity
  obtain ⟨hlow, hhigh⟩ := pixelX_mem hW hlon
  obtain ⟨hlow', hhigh'⟩ := pixelX_mem hW hcentre
  exact abs_lt.2 ⟨by unfold offsetX; linarith, by unfold offsetX; linarith⟩

/-- A point is on the rows of the map that are on the screen. -/
def OnRows (p : MapParams ℝ) (height lat : ℝ) : Prop :=
  0 ≤ zoomOf p ∧ (0 ≤ pixelY (worldSizeOf p) lat ∧ pixelY (worldSizeOf p) lat < worldSizeOf p) ∧ |offsetY p lat| ≤ height / 2

/-- A row of tiles is on the world. -/
theorem of_row_mem {z : ℕ} {y : ℝ} (hzero : 0 ≤ ⌊y / 256⌋) (hlt : ((⌊y / 256⌋ : ℤ) : ℝ) < 2 ^ z) : 0 ≤ y ∧ y < 256 * 2 ^ z := by
  have hpos : (0 : ℝ) < 256 := by norm_num
  have hrow : ⌊y / 256⌋ < 2 ^ z := by exact_mod_cast hlt
  rw [Int.floor_nonneg, le_div_iff₀ hpos, zero_mul] at hzero
  rw [Int.floor_lt, div_lt_iff₀ hpos] at hrow
  push_cast at hrow
  exact ⟨hzero, hrow.trans_eq (mul_comm _ _)⟩

/-- The pixels of the screen at which the grid shows a point: those of its copies. -/
theorem exists_shows_iff (hw : 0 < width) (hh : 0 < height) (hlon : -180 ≤ lon ∧ lon < 180) {x y : ℝ} :
    (InView width height x y ∧ ∃ t ∈ rebuildTiles p width height, t.Shows lat lon x y) ↔
      OnRows p height lat ∧ y = offsetY p lat + height * (1 / 2) ∧
        ∃ k : ℤ, x = offsetX p lon + k * worldSizeOf p + width * (1 / 2) ∧ |offsetX p lon + k * worldSizeOf p| ≤ width / 2 := by
  by_cases hz : 0 ≤ zoomOf p
  · obtain ⟨z, hz'⟩ := Int.eq_ofNat_of_zero_le hz
    have hsize : worldSizeOf p = 256 * 2 ^ z := by rw [worldSizeOf, hz', zpow_natCast]
    have htiles : rebuildTiles p width height =
        tilesAround width height (z : ℤ) (pixelX (worldSizeOf p) (orDefault p.centerLon defaultLon))
          (pixelY (worldSizeOf p) (orDefault p.centerLat defaultLat)) := by
      rw [rebuildTiles_eq p hw hh hz', hsize, zpow_natCast]
    have hcopy : ∀ k : ℤ, pixelX (worldSizeOf p) lon - pixelX (worldSizeOf p) (orDefault p.centerLon defaultLon) +
        width * (1 / 2) + k * worldSizeOf p = offsetX p lon + k * worldSizeOf p + width * (1 / 2) := by
      intro k
      unfold offsetX
      ring
    rw [htiles]
    constructor
    · rintro ⟨⟨hx, hy⟩, t, ht, hshows⟩
      obtain ⟨ty, -, hzero, hlt, tx, -, rfl⟩ := mem_tilesAround.1 ht
      obtain ⟨rfl, rfl, k, -, rfl⟩ := (shows_tile_iff z hlon tx ty).1 hshows
      rw [zpow_natCast] at hlt
      rw [← hsize] at hx hy hzero hlt ⊢
      have hrow := of_row_mem hzero hlt
      rw [← hsize] at hrow
      rw [hcopy] at hx
      exact ⟨⟨hz, hrow, inView_iff.1 hy⟩, rfl, k, hcopy k, inView_iff.1 hx⟩
    · rintro ⟨⟨-, hrow, hrows⟩, rfl, k, rfl, hk⟩
      have hbelow : pixelY (worldSizeOf p) lat < 256 * 2 ^ (z : ℤ) := by
        rw [zpow_natCast, ← hsize]
        exact hrow.2
      obtain ⟨hzero, hlt⟩ := row_mem hrow.1 hbelow
      refine ⟨⟨inView_iff.2 hk, inView_iff.2 hrows⟩,
        tile width height (z : ℤ) _ _ ⌊(pixelX (worldSizeOf p) lon + k * worldSizeOf p) / 256⌋
          ⌊pixelY (worldSizeOf p) lat / 256⌋, mem_tilesAround.2 ⟨_, ?_, hzero, hlt, _, ?_, rfl⟩, ?_⟩
      · have haround := around_floor (v := height) (c := pixelY (worldSizeOf p) (orDefault p.centerLat defaultLat))
          (u := offsetY p lat) (by linarith)
        rwa [offsetY, add_sub_cancel] at haround
      · have haround := around_floor (v := width) (c := pixelX (worldSizeOf p) (orDefault p.centerLon defaultLon))
          (u := offsetX p lon + k * worldSizeOf p) (by linarith)
        rwa [offsetX, ← add_assoc, add_sub_cancel] at haround
      · rw [shows_tile_iff z hlon, ← hsize]
        exact ⟨rfl, rfl, k, rfl, (hcopy k).symm⟩
  · have hnone : ¬∃ t ∈ rebuildTiles p width height, t.Shows lat lon x y := by
      rintro ⟨t, ht, hshows⟩
      rw [rebuildTiles_eq p hw hh rfl] at ht
      obtain ⟨ty, -, -, -, tx, -, rfl⟩ := mem_tilesAround.1 ht
      exact hz hshows.1
    exact iff_of_false (fun h => hnone h.2) fun h => hz h.1.1

/-- Where a copy of the point is on the screen, it is the point with its longitude as it is. -/
def Unsplit (p : MapParams ℝ) (width height lat lon : ℝ) : Prop :=
  OnRows p height lat → worldSizeOf p - |offsetX p lon| ≤ width / 2 → |offsetX p lon| ≤ width / 2

/-- On every screen, with every zoom and every centre, and for every point: the bridge gives a pixel of the screen at
which the point is shown, whenever there is one, if and only if the point is not one that only a copy a world away puts
there. -/
theorem points_land_iff (p : MapParams ℝ) (hw : 0 < width) (hh : 0 < height) (hlon : -180 ≤ lon ∧ lon < 180)
    (hcentre : -180 ≤ orDefault p.centerLon defaultLon ∧ orDefault p.centerLon defaultLon < 180) :
    Lands p width height lat lon ↔ Unsplit p width height lat lon := by
  have hiff : ∀ x y, (InView width height x y ∧ ∃ t ∈ rebuildTiles p width height, t.Shows lat lon x y) ↔ _ :=
    fun x y => exists_shows_iff hw hh hlon
  have hcopies := exists_turn_iff (r := width / 2) (abs_offsetX_lt hlon hcentre)
  rw [Lands, latLonToScreen_eq]
  constructor
  · intro h hrows hacross
    obtain ⟨k, hk⟩ := hcopies.2 (Or.inr hacross)
    obtain ⟨hview, t, ht, hshows⟩ := (hiff _ _).2 ⟨hrows, rfl, k, rfl, hk⟩
    exact inView_iff.1 (h ⟨t, ht, _, _, hshows, hview⟩).1.1
  · rintro h ⟨t, ht, x, y, hshows, hview⟩
    obtain ⟨hrows, -, k, -, hk⟩ := (hiff x y).1 ⟨hview, t, ht, hshows⟩
    have hnear : |offsetX p lon| ≤ width / 2 := by
      rcases hcopies.1 ⟨k, hk⟩ with hnear | hacross
      · exact hnear
      · exact h hrows hacross
    refine (hiff _ _).2 ⟨hrows, rfl, 0, ?_, ?_⟩
    · rw [Int.cast_zero, zero_mul, add_zero]
    · rwa [Int.cast_zero, zero_mul, add_zero]

/-- Near Greenwich there is no other copy on the screen. -/
theorem points_land_greenwich : Lands ⟨some 60, some 10, some 3⟩ 800 600 60 11 := by
  have hcentre : orDefault (some (10 : ℝ)) defaultLon = 10 := orDefault_some (by norm_num)
  have hzoom : zoomOf ⟨some 60, some 10, some 3⟩ = 3 :=
    (zoomOf_some (by norm_num)).trans (Int.floor_ofNat 3)
  refine (points_land_iff _ (by norm_num) (by norm_num) (by norm_num) (by rw [hcentre]; norm_num)).2 ?_
  intro _ _
  rw [offsetX, worldSizeOf, hzoom, hcentre, pixelX, pixelX]
  norm_num [abs_le]

/-- At 60° N on both sides of the antimeridian, on a screen of 800 by 600 pixels with zoom 3. -/
theorem points_land_false : ¬Lands ⟨some 60, some 179, some 3⟩ 800 600 60 (-179) := by
  have hcentre : orDefault (some (179 : ℝ)) defaultLon = 179 := orDefault_some (by norm_num)
  have hlat : orDefault (some (60 : ℝ)) defaultLat = 60 := orDefault_some (by norm_num)
  have hzoom : zoomOf ⟨some 60, some 179, some 3⟩ = 3 :=
    (zoomOf_some (by norm_num)).trans (Int.floor_ofNat 3)
  have hsize : worldSizeOf ⟨some 60, some 179, some 3⟩ = 2048 := by
    rw [worldSizeOf, hzoom]
    norm_num
  have hx : offsetX ⟨some 60, some 179, some 3⟩ (-179) = -(91648 / 45) := by
    rw [offsetX, hsize, hcentre, pixelX, pixelX]
    norm_num
  have hy : offsetY ⟨some 60, some 179, some 3⟩ 60 = 0 := by
    rw [offsetY, hlat, sub_self]
  have hrows : OnRows ⟨some 60, some 179, some 3⟩ 600 60 := by
    obtain ⟨htop, hbottom⟩ := pixelY_mem (worldSizeOf_pos ⟨some 60, some 179, some 3⟩) (by norm_num : |(60 : ℝ)| < 85)
    exact ⟨by rw [hzoom]; norm_num, ⟨htop.le, hbottom⟩, by rw [hy, abs_zero]; norm_num⟩
  intro h
  have hshown := (exists_shows_iff (by norm_num : (0 : ℝ) < 800) (by norm_num : (0 : ℝ) < 600)
    (by norm_num : -180 ≤ (-179 : ℝ) ∧ (-179 : ℝ) < 180)).2 ⟨hrows, rfl, 1, rfl, by rw [hx, hsize]; norm_num [abs_le]⟩
  obtain ⟨hview, t, ht, hshows⟩ := hshown
  have hleft := (h ⟨t, ht, _, _, hshows, hview⟩).1.1.1
  rw [latLonToScreen_eq, hx] at hleft
  norm_num at hleft

end OsmBackground

end PairionClient
