import PairionClient.Backgrounds.OsmBackground
import PairionClient.Lib.Grid

/-!
# The tiles of the street map

The squares of the grid are the cells of the world, so a point of the screen is in the square of its own cell and no other;
and that square is in the grid, which reaches one tile beyond the screen.
-/

namespace PairionClient

open Grid

variable {α : Type} [Field α] [LinearOrder α] [IsStrictOrderedRing α] [FloorRing α]

namespace OsmTile

/-- A point is in the square of a tile, before rounding. -/
def Square (t : OsmTile α) (x y : α) : Prop := (t.sx ≤ x ∧ x < t.sx + 256) ∧ t.sy ≤ y ∧ y < t.sy + 256

/-- A point is in the square that is drawn. -/
def Drawn (t : OsmTile α) (x y : α) : Prop := ((t.x : α) ≤ x ∧ x < t.x + 256) ∧ (t.y : α) ≤ y ∧ y < t.y + 256

end OsmTile

/-- The remainder of a whole number, made positive. -/
theorem wrapped_intCast (tx : ℤ) (n : ℕ) (hn : 0 < n) : wrapped (tx : α) n = ((tx % n : ℤ) : α) := by
  have hpos : (0 : α) < n := Nat.cast_pos.2 hn
  rw [wrapped_eq hpos, Int.fract_div_intCast_eq_div_intCast_mod, mul_div_cancel₀ _ hpos.ne']

namespace OsmBackground

variable {w h : α} {z : ℤ} {cpx cpy : α}

/-- The numbers of the columns, or rows, of the grid around a centre. -/
def Around (v c : α) (i : ℤ) : Prop := ⌊c / 256⌋ - (⌈v / 256 / 2⌉ + 1) ≤ i ∧ i ≤ ⌊c / 256⌋ + (⌈v / 256 / 2⌉ + 1)

omit [IsStrictOrderedRing α] in
/-- The tiles are those of the columns and rows around the centre whose row is on the world. -/
theorem mem_tilesAround {t : OsmTile α} :
    t ∈ tilesAround w h z cpx cpy ↔
      ∃ ty, Around h cpy ty ∧ 0 ≤ ty ∧ (ty : α) < 2 ^ z ∧ ∃ tx, Around w cpx tx ∧ tile w h z cpx cpy tx ty = t := by
  simp only [tilesAround, List.mem_flatMap, List.mem_filter, List.mem_map, Int.mem_range_iff, Int.lt_add_one_iff,
    decide_eq_true_eq, not_or, not_lt, not_le, Around, and_assoc]

/-- The grid reaches one tile beyond the screen. -/
theorem around_floor {v c u : α} (hu : |u| ≤ v / 2 + 256) : Around v c ⌊(c + u) / 256⌋ := by
  rw [add_div]
  apply floor_mem_window
  have hceil : v / 256 / 2 ≤ ⌈v / 256 / 2⌉ := Int.le_ceil _
  rw [abs_div, abs_of_pos (by norm_num : (0 : α) < 256), div_le_iff₀ (by norm_num)]
  push_cast
  linarith

/-- The world position of a point of the screen. -/
def worldOf (v c x : α) : α := c + (x - v * (1 / 2))

/-- A point is in the square of its own cell. -/
theorem square_tile_iff {tx ty : ℤ} {x y : α} :
    (tile w h z cpx cpy tx ty).Square x y ↔ tx = ⌊worldOf w cpx x / 256⌋ ∧ ty = ⌊worldOf h cpy y / 256⌋ := by
  have hpos : (0 : α) < 256 := by norm_num
  have hside : ∀ (v c x : α) (i : ℤ), (i * 256 - c + v * (1 / 2) ≤ x ∧ x < i * 256 - c + v * (1 / 2) + 256) ↔
      i = ⌊worldOf v c x / 256⌋ := by
    intro v c x i
    rw [← mem_cell_iff hpos, worldOf]
    constructor
    · rintro ⟨hle, hlt⟩
      constructor <;> linarith
    · rintro ⟨hle, hlt⟩
      constructor <;> linarith
  exact and_congr (hside w cpx x tx) (hside h cpy y ty)

/-- A tile tells its column and its row. -/
theorem tile_injective {tx ty tx' ty' : ℤ} (heq : tile w h z cpx cpy tx ty = tile w h z cpx cpy tx' ty') :
    tx = tx' ∧ ty = ty' := by
  have hx : (tx : α) * 256 - cpx + w * (1 / 2) = tx' * 256 - cpx + w * (1 / 2) := congrArg OsmTile.sx heq
  have hy : (ty : α) = ty' := by
    have hy : (ty : α) * 256 - cpy + h * (1 / 2) = ty' * 256 - cpy + h * (1 / 2) := congrArg OsmTile.sy heq
    linarith
  have hx : (tx : α) = tx' := by linarith
  exact ⟨Int.cast_injective hx, Int.cast_injective hy⟩

/-- No tile is laid twice. -/
theorem nodup_tilesAround : (tilesAround w h z cpx cpy).Nodup := by
  unfold tilesAround
  refine List.nodup_flatMap.2 ⟨fun ty _ => ?_, ?_⟩
  · exact (nodup_range _ _).map fun tx tx' heq => (tile_injective heq).1
  · refine ((nodup_range _ _).filter _).imp fun hne t ht ht' => ?_
    obtain ⟨tx, -, rfl⟩ := List.mem_map.1 ht
    obtain ⟨tx', -, heq⟩ := List.mem_map.1 ht'
    exact hne (tile_injective heq).2.symm

/-- A pixel of the world is on a row of tiles. -/
theorem row_mem {z : ℤ} {y : α} (hlow : 0 ≤ y) (hhigh : y < 256 * 2 ^ z) :
    0 ≤ ⌊y / 256⌋ ∧ ((⌊y / 256⌋ : ℤ) : α) < 2 ^ z := by
  have hpos : (0 : α) < 256 := by norm_num
  refine ⟨Int.floor_nonneg.2 (div_nonneg hlow hpos.le), (Int.floor_le _).trans_lt ?_⟩
  rw [div_lt_iff₀ hpos, mul_comm]
  exact hhigh

/-- A point of the screen, or of one tile beyond it, is in the square of its own cell and in no other of the grid, if that
cell is on the world. -/
theorem exists_square (z : ℤ) (cpx : α) {x y : α} (hx : |x - w * (1 / 2)| ≤ w / 2 + 256) (hy : |y - h * (1 / 2)| ≤ h / 2 + 256)
    (hlow : 0 ≤ worldOf h cpy y) (hhigh : worldOf h cpy y < 256 * 2 ^ z) :
    tile w h z cpx cpy ⌊worldOf w cpx x / 256⌋ ⌊worldOf h cpy y / 256⌋ ∈ tilesAround w h z cpx cpy ∧
      ∀ t ∈ tilesAround w h z cpx cpy, t.Square x y ↔
        t = tile w h z cpx cpy ⌊worldOf w cpx x / 256⌋ ⌊worldOf h cpy y / 256⌋ := by
  obtain ⟨hzero, hlt⟩ := row_mem hlow hhigh
  constructor
  · exact mem_tilesAround.2 ⟨_, around_floor hy, hzero, hlt, _, around_floor hx, rfl⟩
  · intro t ht
    obtain ⟨ty, -, -, -, tx, -, rfl⟩ := mem_tilesAround.1 ht
    rw [square_tile_iff]
    constructor
    · rintro ⟨rfl, rfl⟩
      rfl
    · exact tile_injective

/-! ## The grid as a whole -/

/-- The index of a column is taken modulo the number of columns of the world. -/
theorem wrappedTX_tile (w h : α) (z : ℕ) (cpx cpy : α) (tx ty : ℤ) :
    (tile w h z cpx cpy tx ty).wrappedTX = ((tx % 2 ^ z : ℤ) : α) := by
  have hcast := wrapped_intCast (α := α) tx (2 ^ z) (Nat.two_pow_pos z)
  change wrapped (tx : α) (2 ^ (z : ℤ)) = _
  rw [zpow_natCast]
  push_cast at hcast
  exact hcast

/-- What the grid is for: a grid of distinct tiles, in which each point of the screen that is on the world is in one
square, that of the tile with the indices of the point; and rounding moves all tiles alike, by half a pixel at most, so
that each point of the screen that is on the world as it is then drawn is in one square again. -/
structure CoversScreen (w h : α) (z : ℕ) (cpx cpy : α) (tiles : List (OsmTile α)) : Prop where
  nodup : tiles.Nodup
  square : ∀ x y, 0 ≤ x → x ≤ w → 0 ≤ y → y ≤ h → 0 ≤ worldOf h cpy y → worldOf h cpy y < 256 * 2 ^ z →
    ∃ t ∈ tiles, (∀ t' ∈ tiles, t'.Square x y ↔ t' = t) ∧
      t.wrappedTX = ((⌊worldOf w cpx x / 256⌋ % 2 ^ z : ℤ) : α) ∧ t.ty = ⌊worldOf h cpy y / 256⌋ ∧
      0 ≤ t.wrappedTX ∧ t.wrappedTX < 2 ^ z ∧ 0 ≤ t.ty ∧ t.ty < 2 ^ z
  rounding : ∃ dx dy : α, |dx| ≤ 1 / 2 ∧ |dy| ≤ 1 / 2 ∧
    (∀ t ∈ tiles, (t.x : α) = t.sx + dx ∧ (t.y : α) = t.sy + dy) ∧
    ∀ x y, 0 ≤ x → x ≤ w → 0 ≤ y → y ≤ h → 0 ≤ worldOf h cpy (y - dy) → worldOf h cpy (y - dy) < 256 * 2 ^ z →
      ∃ t ∈ tiles, ∀ t' ∈ tiles, t'.Drawn x y ↔ t' = t

/-- A point of the screen, moved by a pixel at most, is near the screen. -/
theorem near_centre {v x d : α} (hx : 0 ≤ x) (hxv : x ≤ v) (hd : |d| ≤ 1 / 2) : |x - d - v * (1 / 2)| ≤ v / 2 + 256 := by
  obtain ⟨hlow, hhigh⟩ := abs_le.1 hd
  exact abs_le.2 ⟨by linarith, by linarith⟩

/-- Rounding moves all tiles of a grid by the same vector. -/
theorem round_tile (w h : α) (z : ℤ) (cpx cpy : α) (tx ty : ℤ) :
    ((tile w h z cpx cpy tx ty).x : α) =
        (tile w h z cpx cpy tx ty).sx + (round (w * (1 / 2) - cpx) - (w * (1 / 2) - cpx)) ∧
      ((tile w h z cpx cpy tx ty).y : α) =
        (tile w h z cpx cpy tx ty).sy + (round (h * (1 / 2) - cpy) - (h * (1 / 2) - cpy)) := by
  have hside : ∀ (v c : α) (i : ℤ), (round (i * 256 - c + v * (1 / 2)) : α) =
      i * 256 - c + v * (1 / 2) + (round (v * (1 / 2) - c) - (v * (1 / 2) - c)) := by
    intro v c i
    have hposition : (i : α) * 256 - c + v * (1 / 2) = v * (1 / 2) - c + ((i * 256 : ℤ) : α) := by
      push_cast
      ring
    rw [hposition, ← round_sub_add (v * (1 / 2) - c) (i * 256)]
    ring
  exact ⟨hside w cpx tx, hside h cpy ty⟩

/-- The grid that is built from the parameters of the background. -/
theorem rebuildTiles_eq (p : MapParams ℝ) {width height : ℝ} (hw : 0 < width) (hh : 0 < height) {z : ℤ}
    (hz : ⌊orDefault p.zoom 10⌋ = z) :
    rebuildTiles p width height =
      tilesAround width height z (pixelX (256 * 2 ^ z) (orDefault p.centerLon defaultLon))
        (pixelY (256 * 2 ^ z) (orDefault p.centerLat defaultLat)) := by
  rw [rebuildTiles, hz, if_pos hw, if_pos hh]

/-- For every size of the screen, every zoom and every centre, the grid covers the screen. -/
theorem tilesAround_covers (w h : α) (z : ℕ) (cpx cpy : α) :
    CoversScreen w h z cpx cpy (tilesAround w h z cpx cpy) where
  nodup := nodup_tilesAround
  square := by
    intro x y hx hxw hy hyh hlow hhigh
    have hx' : |x - w * (1 / 2)| ≤ w / 2 + 256 := by simpa using near_centre (d := 0) hx hxw (by norm_num)
    have hy' : |y - h * (1 / 2)| ≤ h / 2 + 256 := by simpa using near_centre (d := 0) hy hyh (by norm_num)
    obtain ⟨hmem, hiff⟩ := exists_square (z : ℤ) cpx hx' hy' hlow (by exact_mod_cast hhigh)
    obtain ⟨ty, -, hzero, hlt, tx, -, heq⟩ := mem_tilesAround.1 hmem
    obtain ⟨-, hty⟩ := tile_injective heq
    have hwrapped := wrappedTX_tile w h z cpx cpy ⌊worldOf w cpx x / 256⌋ ⌊worldOf h cpy y / 256⌋
    refine ⟨_, hmem, hiff, hwrapped, rfl, ?_, ?_, ?_, ?_⟩
    · rw [hwrapped]
      exact_mod_cast Int.emod_nonneg _ (by positivity)
    · rw [hwrapped]
      exact_mod_cast Int.emod_lt_of_pos _ (by positivity)
    · exact hty ▸ hzero
    · rw [hty] at hlt
      exact_mod_cast hlt
  rounding := by
    set dx := (round (w * (1 / 2) - cpx) : α) - (w * (1 / 2) - cpx) with hdx
    set dy := (round (h * (1 / 2) - cpy) : α) - (h * (1 / 2) - cpy) with hdy
    have hdx_le : |dx| ≤ 1 / 2 := by
      rw [hdx, abs_sub_comm]
      exact abs_sub_round _
    have hdy_le : |dy| ≤ 1 / 2 := by
      rw [hdy, abs_sub_comm]
      exact abs_sub_round _
    have hmoved : ∀ t ∈ tilesAround w h z cpx cpy, (t.x : α) = t.sx + dx ∧ (t.y : α) = t.sy + dy := by
      intro t ht
      obtain ⟨ty, -, -, -, tx, -, rfl⟩ := mem_tilesAround.1 ht
      exact round_tile w h z cpx cpy tx ty
    refine ⟨dx, dy, hdx_le, hdy_le, hmoved, fun x y hx hxw hy hyh hlow hhigh => ?_⟩
    obtain ⟨hmem, hiff⟩ := exists_square (z : ℤ) cpx (near_centre hx hxw hdx_le) (near_centre hy hyh hdy_le)
      hlow (by exact_mod_cast hhigh)
    refine ⟨_, hmem, fun t ht => ?_⟩
    -- a point is drawn in a tile when it was in its square before it was moved
    have hdrawn : t.Drawn x y ↔ t.Square (x - dx) (y - dy) := by
      obtain ⟨htx, hty⟩ := hmoved t ht
      rw [OsmTile.Drawn, OsmTile.Square, htx, hty]
      refine and_congr (and_congr le_sub_iff_add_le.symm ?_) (and_congr le_sub_iff_add_le.symm ?_)
      · rw [sub_lt_iff_lt_add, add_right_comm]
      · rw [sub_lt_iff_lt_add, add_right_comm]
    rw [hdrawn]
    exact hiff t ht

/-- A world of one tile on a screen that shows it several times. -/
theorem tilesAround_covers_world :
    CoversScreen (800 : ℚ) 600 0 128 128 (tilesAround 800 600 (0 : ℕ) 128 128) :=
  tilesAround_covers 800 600 0 128 128

end OsmBackground

end PairionClient
