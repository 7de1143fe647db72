import Mathlib.Data.Nat.ModEq
import Mathlib.Logic.Function.Basic

/-!
# A stream kept in a ring of slots

The places of a stream are numbered, and a ring of `n` slots keeps place `i` in slot `i % n`. Two places less than `n` apart
have two slots: so the next place can be written without loss while less than a round is kept, and the first place can be
given up.
-/

namespace Ring

variable {α : Type*} {n : Nat} (hn : 0 < n)

/-- The slot of a place. -/
def slot (i : Nat) : Fin n := ⟨i % n, Nat.mod_lt i hn⟩

@[simp] theorem slot_val (i : Nat) : (slot hn i).val = i % n := rfl

/-- A whole turn leads back to the slot. -/
theorem slot_add_self (i : Nat) : slot hn (i + n) = slot hn i := Fin.ext (Nat.add_mod_right i n)

/-- Two places less than a round apart share their slot only if they are one. -/
theorem slot_eq_iff {i j : Nat} (hij : i ≤ j) (hj : j < i + n) : slot hn i = slot hn j ↔ i = j := by
  constructor
  · intro h
    have hmod : Nat.ModEq n i j := congrArg Fin.val h
    have hdvd : n ∣ j - i := (Nat.modEq_iff_dvd' hij).1 hmod
    have hzero : j - i = 0 := Nat.eq_zero_of_dvd_of_lt hdvd (by omega)
    omega
  · intro h
    rw [h]

/-- A full round apart they do. -/
theorem slot_eq_slot_iff {i j : Nat} (hij : i < j) (hj : j ≤ i + n) : slot hn j = slot hn i ↔ j = i + n := by
  constructor
  · intro h
    by_contra hne
    have heq := (slot_eq_iff hn (Nat.le_of_lt hij) (by omega)).1 h.symm
    omega
  · intro h
    rw [h, slot_add_self]

/-- The ring keeps the stream `xs` from place `first` on. -/
def Holds (data : Fin n → α) (first : Nat) (xs : List α) : Prop :=
  ∀ i x, first ≤ i → xs[i]? = some x → data (slot hn i) = x

variable {hn} {data : Fin n → α} {first : Nat} {xs : List α} {x : α}

theorem holds_nil (data : Fin n → α) (first : Nat) : Holds hn data first [] := by
  intro i x _ hx
  simp at hx

/-- The first element that it holds is in its first slot. -/
theorem Holds.head (h : Holds hn data first xs) (hx : xs[first]? = some x) : data (slot hn first) = x :=
  h first x (Nat.le_refl first) hx

/-- One more value, written to the slot of its place. -/
theorem Holds.append (h : Holds hn data first xs) (hx : data (slot hn xs.length) = x) :
    Holds hn data first (xs ++ [x]) := by
  intro i y hi hy
  rcases Nat.lt_or_ge i xs.length with hlt | hge
  · rw [List.getElem?_append_left hlt] at hy
    exact h i y hi hy
  · have hlen := (List.getElem?_eq_some_iff.1 hy).1
    rw [List.length_append, List.length_singleton] at hlen
    obtain rfl : i = xs.length := by omega
    rw [List.getElem?_concat_length] at hy
    rw [hx, Option.some.inj hy]

/-- Writing the slot of the next place leaves what is kept, when that is less than a round. -/
theorem Holds.write (h : Holds hn data first xs) (hround : xs.length < first + n) (y : α) :
    Holds hn (Function.update data (slot hn xs.length) y) first xs := by
  intro i x hi hx
  have hlt := (List.getElem?_eq_some_iff.1 hx).1
  have hne : slot hn i ≠ slot hn xs.length := by
    intro heq
    have hsame := (slot_eq_iff hn (Nat.le_of_lt hlt) (by omega)).1 heq
    omega
  rw [Function.update_of_ne hne]
  exact h i x hi hx

/-- Writing the slot of the first place gives that place up, and no other of the round. -/
theorem Holds.giveUp (h : Holds hn data first xs) (hround : xs.length ≤ first + n) (y : α) :
    Holds hn (Function.update data (slot hn first) y) (first + 1) xs := by
  intro i x hi hx
  have hlt := (List.getElem?_eq_some_iff.1 hx).1
  have hne : slot hn i ≠ slot hn first := by
    intro heq
    have hsame := (slot_eq_iff hn (by omega) (by omega)).1 heq.symm
    omega
  rw [Function.update_of_ne hne]
  exact h i x (by omega) hx

end Ring
