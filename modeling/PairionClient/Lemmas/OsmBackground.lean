import PairionClient.Backgrounds.OsmBackground
import PairionClient.Lib.Mercator

/-!
# Lemmas on the street map

The bridge as an offset from the centre of the screen, and the rows of the world as ordinates of the Mercator projection.
-/

namespace PairionClient

/-- A pixel is inside the viewport. -/
def InView (width height x y : ℝ) : Prop := (0 ≤ x ∧ x ≤ width) ∧ 0 ≤ y ∧ y ≤ height

namespace OsmBackground

/-- The zoom, the size of the world, and the centre that the parameters come to. -/
noncomputable def zoomOf (p : MapParams ℝ) : ℤ := ⌊orDefault p.zoom 10⌋

noncomputable def worldSizeOf (p : MapParams ℝ) : ℝ := 256 * (2 : ℝ) ^ zoomOf p

/-- A zoom other than zero is rounded down. -/
theorem zoomOf_some {lat lon : Option ℝ} {q : ℝ} (h : q ≠ 0) : zoomOf ⟨lat, lon, some q⟩ = ⌊q⌋ := by
  rw [zoomOf, orDefault_some h]

/-- The world has a positive size at every zoom. -/
theorem worldSizeOf_pos (p : MapParams ℝ) : 0 < worldSizeOf p := by
  unfold worldSizeOf
  positivity

/-- How far right of the centre a longitude is, in world pixels. -/
noncomputable def offsetX (p : MapParams ℝ) (lon : ℝ) : ℝ :=
  pixelX (worldSizeOf p) lon - pixelX (worldSizeOf p) (orDefault p.centerLon defaultLon)

/-- How far below the centre a latitude is. -/
noncomputable def offsetY (p : MapParams ℝ) (lat : ℝ) : ℝ :=
  pixelY (worldSizeOf p) lat - pixelY (worldSizeOf p) (orDefault p.centerLat defaultLat)

/-- A place is drawn at its offset from the centre, from the middle of the screen. -/
theorem latLonToScreen_eq (p : MapParams ℝ) (width height lat lon : ℝ) :
    latLonToScreen p width height lat lon = (offsetX p lon + width * (1 / 2), offsetY p lat + height * (1 / 2)) := by
  have hhalf : (0.5 : ℝ) = 1 / 2 := by norm_num
  rw [latLonToScreen, hhalf]
  rfl

/-- A coordinate is within the screen if it is at most half the screen off the middle. -/
theorem inView_iff {v u : ℝ} : (0 ≤ u + v * (1 / 2) ∧ u + v * (1 / 2) ≤ v) ↔ |u| ≤ v / 2 := by
  rw [abs_le]
  constructor <;> rintro ⟨hlow, hhigh⟩ <;> constructor <;> linarith

/-! ## Rows and columns -/

/-- The latitude of a row, and the longitude of a column. -/
noncomputable def latAt (worldSize y : ℝ) : ℝ := Mercator.latitude (Real.pi * (1 - 2 * y / worldSize)) * 180 / Real.pi

noncomputable def lonAt (worldSize x : ℝ) : ℝ := x / worldSize * 360 - 180

/-- The pixel of a latitude by the ordinate of Mercator's projection. -/
theorem pixelY_eq (worldSize lat : ℝ) :
    pixelY worldSize lat = (1 - Mercator.ordinate (lat * Real.pi / 180) / Real.pi) / 2 * worldSize := rfl

/-- Degrees and back. -/
theorem radians_degrees (x : ℝ) : x * 180 / Real.pi * Real.pi / 180 = x := by
  have hpi := Real.pi_ne_zero
  field_simp

/-- The pixel of a row or a column, on a world of another size. -/
theorem pixelY_latAt {n : ℝ} (hn : n ≠ 0) (worldSize y : ℝ) : pixelY worldSize (latAt n y) = y / n * worldSize := by
  have hpi := Real.pi_ne_zero
  rw [pixelY_eq, latAt, radians_degrees, Mercator.ordinate_latitude]
  field_simp
  ring

/-- The pixel of the longitude at which a tile begins. -/
theorem pixelX_lonAt (n worldSize x : ℝ) : pixelX worldSize (lonAt n x) = x / n * worldSize := by
  rw [pixelX, lonAt]
  ring

/-- The pixel of a longitude scales with the world. -/
theorem pixelX_mul (a b lon : ℝ) : pixelX (a * b) lon = pixelX a lon * b := (mul_assoc _ _ _).symm

/-- The pixel of a latitude scales with the world. -/
theorem pixelY_mul (a b lat : ℝ) : pixelY (a * b) lat = pixelY a lat * b := (mul_assoc _ _ _).symm

/-- The latitude of any pixel lies between the poles. -/
theorem abs_latAt_lt (worldSize y : ℝ) : |latAt worldSize y| < 90 := by
  have hpi := Real.pi_pos
  obtain ⟨hlow, hhigh⟩ := Mercator.latitude_mem (Real.pi * (1 - 2 * y / worldSize))
  rw [latAt, abs_lt, lt_div_iff₀ hpi, div_lt_iff₀ hpi]
  constructor <;> linarith

/-- A latitude between the poles is an angle of less than a quarter turn. -/
theorem radians_mem {lat : ℝ} (h : |lat| < 90) : lat * Real.pi / 180 ∈ Set.Ioo (-(Real.pi / 2)) (Real.pi / 2) := by
  have hpi := Real.pi_pos
  obtain ⟨hlow, hhigh⟩ := abs_lt.1 h
  constructor <;> nlinarith

/-- Further north is higher on the screen. -/
theorem pixelY_lt_iff {worldSize lat lat' : ℝ} (hsize : 0 < worldSize) (hlat : |lat| < 90) (hlat' : |lat'| < 90) :
    pixelY worldSize lat < pixelY worldSize lat' ↔ lat' < lat := by
  have hpi := Real.pi_pos
  rw [pixelY_eq, pixelY_eq, mul_lt_mul_iff_left₀ hsize, div_lt_div_iff_of_pos_right two_pos, sub_lt_sub_iff_left,
    div_lt_div_iff_of_pos_right hpi, Mercator.ordinate_lt_iff (radians_mem hlat') (radians_mem hlat),
    div_lt_div_iff_of_pos_right (by norm_num), mul_lt_mul_iff_left₀ hpi]

/-- Further north is further up. -/
theorem pixelY_le_iff {worldSize lat lat' : ℝ} (hsize : 0 < worldSize) (hlat : |lat| < 90) (hlat' : |lat'| < 90) :
    pixelY worldSize lat ≤ pixelY worldSize lat' ↔ lat' ≤ lat := by
  rw [← not_lt, pixelY_lt_iff hsize hlat' hlat, not_lt]

/-! ## The band -/

/-- The latitude at which the world is cut off. -/
noncomputable def bandLat : ℝ := Mercator.latitude Real.pi * 180 / Real.pi

/-- The world is cut off before the poles. -/
theorem bandLat_lt : bandLat < 90 := by
  have hpi := Real.pi_pos
  have hlt := (Mercator.latitude_mem Real.pi).2
  rw [bandLat, div_lt_iff₀ hpi]
  linarith

/-- The world goes beyond 85 degrees. -/
theorem lt_bandLat : 85 < bandLat := by
  have hpi := Real.pi_pos
  have hlt := Mercator.lt_latitude_pi
  rw [bandLat, lt_div_iff₀ hpi]
  linarith

/-- Both edges of the world lie between the poles. -/
theorem abs_bandLat_lt : |bandLat| < 90 ∧ |-bandLat| < 90 := by
  have hlow := lt_bandLat
  have hhigh := bandLat_lt
  rw [abs_neg, and_self, abs_lt]
  constructor <;> linarith

/-- The top and the bottom of the world. -/
theorem pixelY_bandLat {worldSize : ℝ} (hsize : 0 < worldSize) :
    pixelY worldSize bandLat = 0 ∧ pixelY worldSize (-bandLat) = worldSize := by
  have htop : bandLat = latAt worldSize 0 := by rw [bandLat, latAt, mul_zero, zero_div, sub_zero, mul_one]
  have hbottom : -bandLat = latAt worldSize worldSize := by
    have hend : Real.pi * (1 - 2 * worldSize / worldSize) = -Real.pi := by
      rw [mul_div_cancel_right₀ _ hsize.ne']
      ring
    rw [bandLat, latAt, hend, Mercator.latitude_neg]
    ring
  rw [hbottom, htop, pixelY_latAt hsize.ne', pixelY_latAt hsize.ne', zero_div, zero_mul, div_self hsize.ne', one_mul]
  exact ⟨rfl, rfl⟩

/-- The rows of the band are those of the world. -/
theorem abs_le_bandLat_iff {worldSize lat : ℝ} (hsize : 0 < worldSize) (hlat : |lat| < 90) :
    |lat| ≤ bandLat ↔ 0 ≤ pixelY worldSize lat ∧ pixelY worldSize lat ≤ worldSize := by
  obtain ⟨htop, hbottom⟩ := pixelY_bandLat hsize
  have hnorth := pixelY_le_iff hsize abs_bandLat_lt.1 hlat
  have hsouth := pixelY_le_iff hsize hlat abs_bandLat_lt.2
  rw [htop] at hnorth
  rw [hbottom] at hsouth
  rw [hnorth, hsouth, abs_le, and_comm]

/-- A latitude is on the world exactly when its pixel is. -/
theorem abs_lt_bandLat_iff {worldSize lat : ℝ} (hsize : 0 < worldSize) (hlat : |lat| < 90) :
    |lat| < bandLat ↔ 0 < pixelY worldSize lat ∧ pixelY worldSize lat < worldSize := by
  obtain ⟨htop, hbottom⟩ := pixelY_bandLat hsize
  have hnorth := pixelY_lt_iff hsize abs_bandLat_lt.1 hlat
  have hsouth := pixelY_lt_iff hsize hlat abs_bandLat_lt.2
  rw [htop] at hnorth
  rw [hbottom] at hsouth
  rw [hnorth, hsouth, abs_lt, and_comm]

/-- A latitude of less than 85 degrees is on the world. -/
theorem pixelY_mem {worldSize lat : ℝ} (hsize : 0 < worldSize) (hlat : |lat| < 85) :
    0 < pixelY worldSize lat ∧ pixelY worldSize lat < worldSize :=
  (abs_lt_bandLat_iff hsize (hlat.trans (by norm_num))).1 (hlat.trans lt_bandLat)

end OsmBackground

end PairionClient
