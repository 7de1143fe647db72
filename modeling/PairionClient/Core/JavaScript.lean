import Mathlib.Algebra.Order.Floor.Ring
import Mathlib.Data.List.Perm.Basic
import Mathlib.Data.Rat.Floor
import Mathlib.Tactic.FieldSimp
import Mathlib.Tactic.Linarith
import Mathlib.Tactic.Ring
import PairionClient.Lib.Numerals

/-!
# JavaScript

What the QML files take from the language: objects used as maps, the remainder, and the value `||` puts for a missing one.
Numbers are exact.
-/

namespace PairionClient

/-- The names that every JavaScript object inherits from its prototype. -/
def inheritedNames : List String :=
  ["constructor", "toString", "toLocaleString", "valueOf", "hasOwnProperty", "isPrototypeOf", "propertyIsEnumerable",
    "__proto__", "__defineGetter__", "__defineSetter__", "__lookupGetter__", "__lookupSetter__"]

/-- An object used as a map: its own properties in the order in which they were made. -/
abbrev JsObject (β : Type) : Type := List (String × β)

namespace JsObject

variable {β : Type}

/-- `o[key] = x`. -/
def set (key : String) (x : β) (o : JsObject β) : JsObject β :=
  if (o.lookup key).isSome then o.map fun p => if p.1 = key then (key, x) else p else o ++ [(key, x)]

/-- The number that a text of digits spells. -/
def digitsValue (digits : List Char) : Nat := digits.foldl (fun n c => 10 * n + (c.toNat - 48)) 0

/-- Whether a key is an array index. -/
def isIndex (key : String) : Bool :=
  key.toList ≠ [] && key.toList.all Char.isDigit && (key.toList = ['0'] || key.toList.head? ≠ some '0') &&
    digitsValue key.toList < 4294967295

/-- `Object.keys(o)`: array indices first and in order, then the others as they were made. -/
def keys (o : JsObject β) : List String :=
  ((o.map (·.1)).filter isIndex).mergeSort (fun a b => digitsValue a.toList ≤ digitsValue b.toList) ++
    (o.map (·.1)).filter fun key => !isIndex key

/-- The order in which `Object.keys` lists an object is a permutation of its keys. -/
theorem keys_perm (o : JsObject β) : List.Perm o.keys (o.map (·.1)) :=
  ((List.mergeSort_perm _ _).append_right _).trans (List.filter_append_perm isIndex _)

/-- Keys that are all new are added at the end. -/
theorem foldl_set_eq {γ : Type} (key : γ → String) (f : γ → β) (xs : List γ) (o : JsObject β)
    (h : (o.map (·.1) ++ xs.map key).Nodup) :
    xs.foldl (fun o x => set (key x) (f x) o) o = o ++ xs.map fun x => (key x, f x) := by
  induction xs generalizing o with
  | nil => exact (List.append_nil o).symm
  | cons x xs ih =>
    have hnew : o.lookup (key x) = none := by
      rw [List.lookup_eq_none_iff]
      intro p hp
      have hne : key x ≠ p.1 := by
        intro heq
        have hdisjoint := (List.nodup_append.1 h).2.2 p.1 (List.mem_map_of_mem hp) (key x) List.mem_cons_self
        exact hdisjoint heq.symm
      simpa using hne
    have hset : o.set (key x) (f x) = o ++ [(key x, f x)] := by
      rw [set, hnew]
      rfl
    rw [List.foldl_cons, hset, ih, List.append_assoc]
    · rfl
    · rw [List.map_append, List.append_assoc]
      exact h

end JsObject

/-- The value of `x || d`: a number that is missing or 0 counts as absent. -/
def orDefault {α : Type} [Zero α] [DecidableEq α] (x : Option α) (d : α) : α :=
  match x with
  | none => d
  | some q => if q = 0 then d else q

/-- A value other than zero is taken as it is. -/
theorem orDefault_some {α : Type} [Zero α] [DecidableEq α] {q d : α} (h : q ≠ 0) : orDefault (some q) d = q :=
  if_neg h

/-- A number that is supplied is taken, but for 0. -/
theorem orDefault_eq_iff {α : Type} [Zero α] [DecidableEq α] {q d : α} (hd : d ≠ 0) : orDefault (some q) d = q ↔ q ≠ 0 := by
  refine ⟨?_, orDefault_some⟩
  rintro heq rfl
  have hzero : orDefault (some (0 : α)) d = d := if_pos rfl
  exact hd (hzero.symm.trans heq)

section Remainder

variable {α : Type*} [Field α] [LinearOrder α] [FloorRing α]

/-- A number without its fraction. -/
def truncated (x : α) : ℤ := if x < 0 then ⌈x⌉ else ⌊x⌋

/-- `x % y`. -/
def remainder (x y : α) : α := x - y * truncated (x / y)

/-- `((x % y) + y) % y`. -/
def wrapped (x y : α) : α := remainder (remainder x y + y) y

variable [IsStrictOrderedRing α] {x y : α}

/-- Truncation takes off less than one. -/
theorem lt_truncated_add_one (x : α) : (truncated x : α) < x + 1 := by
  unfold truncated
  split
  · exact Int.ceil_lt_add_one x
  · exact (Int.floor_le x).trans_lt (lt_add_one x)

/-- The remainder made positive. -/
theorem wrapped_eq (hy : 0 < y) : wrapped x y = y * Int.fract (x / y) := by
  set q := x / y with hq
  have hx : x = y * q := by rw [hq]; field_simp
  have hsum : (remainder x y + y) / y = q - truncated q + 1 := by
    rw [remainder, ← hq, hx]
    field_simp
  have hpositive : ¬q - truncated q + 1 < 0 := by linarith [lt_truncated_add_one q]
  have hfloor : truncated (q - truncated q + 1) = ⌊q⌋ - truncated q + 1 := by
    rw [truncated, if_neg hpositive, Int.floor_add_one, Int.floor_sub_intCast]
  rw [wrapped, remainder, hsum, hfloor, remainder, ← hq, hx, Int.fract]
  push_cast
  ring

/-- The double remainder `((x % y) + y) % y` is never negative. -/
theorem wrapped_nonneg (hy : 0 < y) : 0 ≤ wrapped x y := by
  rw [wrapped_eq hy]
  exact mul_nonneg hy.le (Int.fract_nonneg _)

/-- The double remainder stays below its modulus. -/
theorem wrapped_lt (hy : 0 < y) : wrapped x y < y := by
  rw [wrapped_eq hy]
  exact mul_lt_of_lt_one_right hy (Int.fract_lt_one _)

end Remainder

end PairionClient
