import Mathlib.Data.Nat.Cast.Defs

/-!
# Numerals

A numeral of a field holds a proof that it is at least two. The proofs for the numerals that definitions of several modules
share have names here, so that a numeral is the same term in each of them.
-/

namespace Numerals

instance atLeastTwo_2 : Nat.AtLeastTwo (nat_lit 2) := ⟨by decide⟩

instance atLeastTwo_10 : Nat.AtLeastTwo (nat_lit 10) := ⟨by decide⟩

instance atLeastTwo_180 : Nat.AtLeastTwo (nat_lit 180) := ⟨by decide⟩

instance atLeastTwo_256 : Nat.AtLeastTwo (nat_lit 256) := ⟨by decide⟩

instance atLeastTwo_360 : Nat.AtLeastTwo (nat_lit 360) := ⟨by decide⟩

instance atLeastTwo_1440 : Nat.AtLeastTwo (nat_lit 1440) := ⟨by decide⟩

instance atLeastTwo_2560 : Nat.AtLeastTwo (nat_lit 2560) := ⟨by decide⟩

end Numerals
