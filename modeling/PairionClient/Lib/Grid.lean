import Mathlib.Algebra.Order.Round
import Mathlib.Data.Int.Range
import Mathlib.Data.List.Nodup
import Mathlib.Tactic.FieldSimp
import Mathlib.Tactic.Linarith
import PairionClient.Lib.Numerals

/-!
# Cells of a line

A line is cut into cells of one size, numbered by the integers. Each point is in the one cell whose number is the floor of its
coordinate; a window of `n` cells each way around the cell of a point reaches `n` cells from the point at least; and positions
that differ by whole numbers are rounded by the same amount.
-/

namespace Grid

variable {α : Type*} [Field α] [LinearOrder α] [IsStrictOrderedRing α] [FloorRing α]

/-- A point is in one cell. -/
theorem mem_cell_iff {c x : α} (hc : 0 < c) {i : ℤ} : (i * c ≤ x ∧ x < i * c + c) ↔ i = ⌊x / c⌋ := by
  rw [eq_comm, Int.floor_eq_iff, le_div_iff₀ hc, div_lt_iff₀ hc, add_mul, one_mul]

/-- What is at most `n` cells away is in the window. -/
theorem floor_mem_window {a b : α} {n : ℤ} (h : |b| ≤ n) : ⌊a⌋ - n ≤ ⌊a + b⌋ ∧ ⌊a + b⌋ ≤ ⌊a⌋ + n := by
  obtain ⟨hlow, hhigh⟩ := abs_le.1 h
  constructor
  · rw [← Int.floor_sub_intCast]
    exact Int.floor_le_floor (by linarith)
  · rw [← Int.floor_add_intCast]
    exact Int.floor_le_floor (by linarith)

/-- The cells from one to another, with their edges, cover an interval exactly when they reach its ends. -/
theorem covers_iff {lo hi : α} (h : lo ≤ hi) {m n : ℤ} :
    (∀ u, lo ≤ u → u ≤ hi → ∃ i : ℤ, m ≤ i ∧ i ≤ n ∧ i ≤ u ∧ u ≤ i + 1) ↔ m ≤ n ∧ m ≤ lo ∧ hi ≤ n + 1 := by
  constructor
  · intro hcovers
    obtain ⟨i, him, hin, hi_le, -⟩ := hcovers lo le_rfl h
    obtain ⟨j, -, hjn, -, hle_j⟩ := hcovers hi h le_rfl
    have him' : (m : α) ≤ i := Int.cast_le.2 him
    have hjn' : (j : α) ≤ n := Int.cast_le.2 hjn
    exact ⟨him.trans hin, him'.trans hi_le, hle_j.trans (by linarith)⟩
  · rintro ⟨hmn, hm, hn⟩ u hlo hhi
    by_cases hlast : u < n + 1
    · refine ⟨⌊u⌋, Int.le_floor.2 (hm.trans hlo), ?_, Int.floor_le u, (Int.lt_floor_add_one u).le⟩
      exact Int.lt_add_one_iff.1 (Int.floor_lt.2 (by exact_mod_cast hlast))
    · exact ⟨n, hmn, le_rfl, by linarith [not_lt.1 hlast], by linarith⟩

/-- The rounding of positions that are whole numbers apart. -/
theorem round_sub_add (x : α) (k : ℤ) : (round (x + k) : α) - (x + k) = round x - x := by
  rw [round_add_intCast, Int.cast_add]
  exact add_sub_add_right_eq_sub _ _ _

/-- No integer comes twice. -/
theorem nodup_range (m n : ℤ) : (Int.range m n).Nodup := by
  refine List.Nodup.map (fun a b h => ?_) List.nodup_range
  have heq : m + (a : ℤ) = m + b := h
  exact_mod_cast add_left_cancel heq

end Grid
