import Mathlib.Algebra.Order.Field.Basic
import Mathlib.Algebra.Group.ModEq
import Mathlib.Tactic.Linarith
import Mathlib.Tactic.Ring
import PairionClient.Lib.Numerals

/-!
# The short way round a circle

A motion round a circle of circumference `w` goes from one position to another by their difference, or by that difference
less a turn or more a turn. One correction each way gives the short way, of at most half a turn, exactly when the two
positions are at most one and a half turns apart.
-/

namespace ShortWay

variable {α : Type*} [Field α] [LinearOrder α]

/-- A difference of two positions, corrected by one turn if it is more than half a turn. -/
def shortWay (w d : α) : α :=
  let d := if w / 2 < d then d - w else d
  if d < -(w / 2) then d + w else d

variable {w d : α}

/-- The short way leads to the same place of the circle. -/
theorem shortWay_modEq (w d : α) : AddCommGroup.ModEq w (shortWay w d) d := by
  have hless : ∀ x : α, AddCommGroup.ModEq w (x - w) x := by
    intro x
    have h := AddCommGroup.add_zsmul_modEq (p := w) (a := x) (-1)
    rwa [neg_one_zsmul, ← sub_eq_add_neg] at h
  have hmore : ∀ x : α, AddCommGroup.ModEq w (x + w) x := by
    intro x
    have h := AddCommGroup.add_zsmul_modEq (p := w) (a := x) 1
    rwa [one_zsmul] at h
  unfold shortWay
  split <;> dsimp only <;> split
  · exact (hmore _).trans (hless d)
  · exact hless d
  · exact hmore d
  · rfl

variable [IsStrictOrderedRing α]

/-- At most one of the corrections is made. -/
theorem shortWay_cases (w d : α) :
    (w / 2 < d ∧ shortWay w d = d - w) ∨ (d < -(w / 2) ∧ shortWay w d = d + w) ∨ (|d| ≤ w / 2 ∧ shortWay w d = d) := by
  unfold shortWay
  by_cases hfar : w / 2 < d
  · have hback : ¬d - w < -(w / 2) := by linarith
    exact Or.inl ⟨hfar, by simp [hfar, hback]⟩
  · by_cases hback : d < -(w / 2)
    · exact Or.inr (Or.inl ⟨hback, by simp [hfar, hback]⟩)
    · exact Or.inr (Or.inr ⟨abs_le.2 ⟨not_lt.1 hback, not_lt.1 hfar⟩, by simp [hfar, hback]⟩)

/-- The way is at most half a turn exactly when the positions are at most one and a half turns apart. -/
theorem abs_shortWay_le_iff (hw : 0 < w) : |shortWay w d| ≤ w / 2 ↔ |d| ≤ 3 * w / 2 := by
  rcases shortWay_cases w d with ⟨hfar, heq⟩ | ⟨hback, heq⟩ | ⟨hnear, heq⟩
  · rw [heq, abs_le, abs_le]
    exact ⟨fun ⟨_, hle⟩ => ⟨by linarith, by linarith⟩, fun ⟨_, hle⟩ => ⟨by linarith, by linarith⟩⟩
  · rw [heq, abs_le, abs_le]
    exact ⟨fun ⟨hle, _⟩ => ⟨by linarith, by linarith⟩, fun ⟨hle, _⟩ => ⟨by linarith, by linarith⟩⟩
  · rw [heq]
    exact iff_of_true hnear (hnear.trans (by linarith))

/-- A difference is shorter less a turn exactly when it is more than half a turn forward. -/
theorem abs_sub_lt_abs_iff (hw : 0 < w) : |d - w| < |d| ↔ w / 2 < d := by
  rw [← sq_lt_sq]
  constructor
  · intro h
    by_contra hle
    nlinarith [mul_nonneg hw.le (sub_nonneg.2 (not_lt.1 hle))]
  · intro h
    nlinarith [mul_pos hw (sub_pos.2 h)]

/-- And more a turn, when it is more than half a turn back. -/
theorem abs_add_lt_abs_iff (hw : 0 < w) : |d + w| < |d| ↔ d < -(w / 2) := by
  have h := abs_sub_lt_abs_iff (d := -d) hw
  rw [abs_neg, ← abs_neg (-d - w), neg_sub, sub_neg_eq_add, add_comm w d] at h
  rw [h]
  exact lt_neg

/-- Of the positions that differ from one by whole turns, one is within a distance when that position is, or the one a
turn nearer. -/
theorem exists_turn_iff {r : α} (hd : |d| < w) : (∃ k : ℤ, |d + k * w| ≤ r) ↔ |d| ≤ r ∨ w - |d| ≤ r := by
  have hw : 0 < w := (abs_nonneg d).trans_lt hd
  constructor
  · rintro ⟨k, hk⟩
    rcases eq_or_ne k 0 with rfl | hne
    · left
      simpa using hk
    · right
      have hone : (1 : α) ≤ |(k : α)| := by exact_mod_cast Int.one_le_abs hne
      have hfar : w ≤ |(k : α) * w| := by
        rw [abs_mul, abs_of_pos hw]
        exact le_mul_of_one_le_left hw.le hone
      have htriangle : |(k : α) * w| ≤ |d + k * w| + |d| := by
        calc |(k : α) * w| = |(d + k * w) - d| := by rw [add_sub_cancel_left]
          _ ≤ |d + k * w| + |d| := abs_sub _ _
      linarith
  · rintro (hnear | hturn)
    · exact ⟨0, by simpa using hnear⟩
    · rcases abs_cases d with ⟨habs, _⟩ | ⟨habs, _⟩ <;> rw [habs] at hturn hd
      · refine ⟨-1, ?_⟩
        rw [Int.cast_neg, Int.cast_one, neg_one_mul, ← sub_eq_add_neg, abs_of_neg (by linarith)]
        linarith
      · refine ⟨1, ?_⟩
        rw [Int.cast_one, one_mul, abs_of_pos (by linarith)]
        linarith

end ShortWay
