import Mathlib.Data.List.Basic
import Mathlib.Data.List.GetD

/-!
# Checked accesses

What a program reads and writes through indices and iterators, with the check that the language leaves out: an access that is
not inside the sequence gives nothing. An array that is filled block by block holds the blocks, each with what was left of its
place (`fill_eq`).
-/

namespace Checked

variable {α : Type*}

/-- The elements from `first` to before `last`. -/
def range (xs : List α) (first last : Int) : Option (List α) :=
  if 0 ≤ first ∧ first ≤ last ∧ last ≤ xs.length then some ((xs.drop first.toNat).take (last - first).toNat) else none

/-- The element at an index. -/
def index (xs : List α) (i : Int) : Option α := if 0 ≤ i then xs[i.toNat]? else none

/-- Write a block over an array from `first` on. -/
def overwrite (xs : List α) (first : Nat) (block : List α) : Option (List α) :=
  if first + block.length ≤ xs.length then some (xs.take first ++ block ++ xs.drop (first + block.length)) else none

/-- Write the blocks with the numbers below `count`, each from its multiple of `n` on. -/
def fill (n : Nat) (block : Nat → Option (List α)) (count : Nat) (xs : List α) : Option (List α) :=
  (List.range count).foldlM (fun xs i => (block i).bind fun b => overwrite xs (i * n) b) xs

variable {xs : List α}

/-- A range within the list is read. -/
theorem range_eq (xs : List α) {first last : Nat} (h : first ≤ last) (hlast : last ≤ xs.length) :
    range xs first last = some ((xs.drop first).take (last - first)) := by
  rw [range, if_pos (by omega)]
  congr 2
  omega

/-- A range that ends before it begins is none. -/
theorem range_of_lt {first last : Int} (h : last < first) : range xs first last = none := if_neg (by omega)

/-- An index within the list is read. -/
theorem index_eq {i : Nat} (h : i < xs.length) : index xs i = some xs[i] := by
  rw [index, if_pos (Int.natCast_nonneg i), Int.toNat_natCast, List.getElem?_eq_getElem h]

/-- Counted from the end. -/
theorem index_last {n i : Nat} (hn : n ≤ xs.length) (hi : i < n) (a : α) :
    index xs (xs.length - n + i) = some (xs.getD (xs.length - n + i) a) := by
  have hplace : (xs.length - n + i : Int) = (xs.length - n + i : Nat) := by omega
  have hlt : xs.length - n + i < xs.length := by omega
  rw [hplace, index_eq hlt, List.getD_eq_getElem _ _ hlt]

/-- A block written behind what was written before. -/
theorem overwrite_append {done rest block : List α} (h : block.length ≤ rest.length) :
    overwrite (done ++ rest) done.length block = some (done ++ block ++ rest.drop block.length) := by
  rw [overwrite, if_pos (by rw [List.length_append]; omega), List.take_left, List.drop_append]
  simp

/-- A fill ends with its last block. -/
theorem fill_succ (n : Nat) (block : Nat → Option (List α)) (count : Nat) :
    fill n block (count + 1) xs =
      (fill n block count xs).bind fun xs => (block count).bind fun b => overwrite xs (count * n) b := by
  rw [fill, List.range_succ, List.foldlM_append]
  simp [fill]

/-- A block with what is left of its place. -/
def pad (n : Nat) (a : α) (block : List α) : List α := block ++ List.replicate (n - block.length) a

/-- A padded block has the full length. -/
theorem length_pad {n : Nat} {a : α} {block : List α} (h : block.length ≤ n) : (pad n a block).length = n := by
  rw [pad, List.length_append, List.length_replicate]
  omega

/-- A full block is not padded. -/
theorem pad_eq_self {n : Nat} {a : α} {block : List α} (h : block.length = n) : pad n a block = block := by
  rw [pad, h, Nat.sub_self, List.replicate_zero, List.append_nil]

/-- Padded blocks have their full lengths together. -/
theorem length_flatMap_pad {n count : Nat} {a : α} {bs : Nat → List α} (h : ∀ i < count, (bs i).length ≤ n) :
    ((List.range count).flatMap fun i => pad n a (bs i)).length = count * n := by
  induction count with
  | zero => simp
  | succ count ih =>
    rw [List.range_succ, List.flatMap_append, List.length_append, ih fun i hi => h i (by omega), List.flatMap_singleton,
      length_pad (h count (by omega)), Nat.succ_mul]

/-- Blocks that are there and fit, written over an array of one value. -/
theorem fill_eq {n count : Nat} {block : Nat → Option (List α)} (bs : Nat → List α) (h : ∀ i < count, block i = some (bs i))
    (hfit : ∀ i < count, (bs i).length ≤ n) (a : α) :
    fill n block count (List.replicate (count * n) a) = some ((List.range count).flatMap fun i => pad n a (bs i)) := by
  suffices hsome : ∀ k ≤ count, fill n block k (List.replicate (count * n) a) =
      some (((List.range k).flatMap fun i => pad n a (bs i)) ++ List.replicate ((count - k) * n) a) by
    simpa using hsome count (Nat.le_refl count)
  intro k hk
  induction k with
  | zero => simp [fill]
  | succ k ih =>
    have hfits : (bs k).length ≤ n := hfit k hk
    have hplace : ((List.range k).flatMap fun i => pad n a (bs i)).length = k * n :=
      length_flatMap_pad fun i hi => hfit i (by omega)
    have hrest : (count - k) * n = n + (count - (k + 1)) * n := by
      rw [show count - k = count - (k + 1) + 1 by omega, Nat.succ_mul, Nat.add_comm]
    have hleft : (count - k) * n - (bs k).length = n - (bs k).length + (count - (k + 1)) * n := by omega
    rw [fill_succ, ih (by omega), Option.bind_some, h k hk, Option.bind_some, ← hplace,
      overwrite_append (by rw [List.length_replicate]; omega), List.drop_replicate, hleft, List.replicate_add,
      List.range_succ, List.flatMap_append, List.flatMap_singleton, pad]
    simp only [List.append_assoc]

/-- A block that is not there leaves nothing. -/
theorem fill_eq_none {n count i : Nat} {block : Nat → Option (List α)} (hi : i < count) (h : block i = none) (xs : List α) :
    fill n block count xs = none := by
  induction count with
  | zero => exact absurd hi (Nat.not_lt_zero i)
  | succ count ih =>
    rw [fill_succ]
    by_cases heq : i = count
    · subst heq
      rw [h]
      cases fill n block i xs <;> rfl
    · rw [ih (by omega)]
      rfl

end Checked
