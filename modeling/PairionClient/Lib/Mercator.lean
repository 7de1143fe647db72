import Mathlib.Analysis.Complex.ExponentialBounds
import Mathlib.Analysis.Real.Pi.Bounds
import Mathlib.Analysis.SpecialFunctions.Arsinh
import Mathlib.Analysis.SpecialFunctions.Trigonometric.Arctan
import Mathlib.Analysis.SpecialFunctions.Trigonometric.Bounds
import PairionClient.Lib.Numerals

/-!
# The Mercator projection

The ordinate of a latitude, and the latitude of an ordinate: in radians, on a world that is cut off where the ordinate is `π`.
-/

namespace Mercator

open Real

/-- The ordinate of a latitude. -/
noncomputable def ordinate (x : ℝ) : ℝ := log (tan x + 1 / cos x)

/-- The latitude of an ordinate. -/
noncomputable def latitude (u : ℝ) : ℝ := arctan (sinh u)

variable {x y u : ℝ}

/-- The ordinate is the inverse hyperbolic sine of the tangent. -/
theorem ordinate_eq (hx : 0 < cos x) : ordinate x = arsinh (tan x) := by
  rw [ordinate, arsinh, ← inv_sqrt_one_add_tan_sq hx, one_div, inv_inv]

@[simp] theorem ordinate_latitude (u : ℝ) : ordinate (latitude u) = u := by
  rw [latitude, ordinate_eq (cos_arctan_pos _), tan_arctan, arsinh_sinh]

/-- Every ordinate has a latitude between the poles. -/
theorem latitude_mem (u : ℝ) : latitude u ∈ Set.Ioo (-(π / 2)) (π / 2) :=
  ⟨neg_pi_div_two_lt_arctan _, arctan_lt_pi_div_two _⟩

@[simp] theorem latitude_neg (u : ℝ) : latitude (-u) = -latitude u := by
  rw [latitude, sinh_neg, arctan_neg, latitude]

/-- Further north is higher. -/
theorem ordinate_lt_iff (hx : x ∈ Set.Ioo (-(π / 2)) (π / 2)) (hy : y ∈ Set.Ioo (-(π / 2)) (π / 2)) :
    ordinate x < ordinate y ↔ x < y := by
  rw [ordinate_eq (cos_pos_of_mem_Ioo hx), ordinate_eq (cos_pos_of_mem_Ioo hy), arsinh_lt_arsinh]
  exact strictMonoOn_tan.lt_iff_lt hx hy

/-- A bound for the edge of the square world. -/
theorem exp_pi_gt : 23 < exp π := by
  have hpi := pi_gt_d4
  have hthree : 20 < exp 3 := by
    have hone := exp_one_gt_d9
    have hcube : exp 3 = exp 1 ^ 3 := by
      rw [← exp_nat_mul]
      norm_num
    rw [hcube]
    calc (20 : ℝ) < 2.7182818283 ^ 3 := by norm_num
      _ < exp 1 ^ 3 := pow_lt_pow_left₀ hone (by norm_num) (by norm_num)
  have hrest : 1.15 < exp (π - 3) := by
    have hquadratic := quadratic_le_exp_of_nonneg (x := π - 3) (by linarith)
    nlinarith
  calc (23 : ℝ) = 20 * 1.15 := by norm_num
    _ < exp 3 * exp (π - 3) := mul_lt_mul'' hthree hrest (by norm_num) (by norm_num)
    _ = exp π := by rw [← exp_add, add_sub_cancel]

/-- At 85 degrees the world is not cut off yet. -/
theorem lt_latitude_pi : 85 * π / 180 < latitude π := by
  have hpi := pi_gt_d4
  -- the tangent there is the cotangent of 5 degrees, which is less than the inverse of the angle
  have htan : tan (85 * π / 180) < 36 / π := by
    have hangle : 85 * π / 180 = π / 2 - π / 36 := by ring
    have hsmall : π / 36 < tan (π / 36) := lt_tan (by positivity) (by linarith)
    have hinverse := inv_strictAnti₀ (by positivity) hsmall
    rwa [inv_div, ← tan_pi_div_two_sub, ← hangle] at hinverse
  have hsinh : 36 / π < sinh π := by
    have hexp := exp_pi_gt
    have hneg : exp (-π) < 1 / 23 := by
      rw [exp_neg, one_div]
      exact inv_strictAnti₀ (by norm_num) hexp
    rw [div_lt_iff₀ pi_pos, sinh_eq]
    nlinarith
  calc 85 * π / 180 = arctan (tan (85 * π / 180)) := (arctan_tan (by linarith) (by linarith)).symm
    _ < arctan (sinh π) := arctan_strictMono (htan.trans hsinh)

end Mercator
