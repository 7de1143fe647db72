import Mathlib.Data.List.Nodup

/-!
# Writing through a table of references

Objects are told apart by a reference, and a table names some of them. Writing to each object of the table in turn is
writing to all of them at once, whatever the order, when no reference stands twice in the table.
-/

namespace Refs

variable {κ ι β : Type*} [DecidableEq ι] {ref : β → ι} {entries : List (κ × ι)} {f : κ → β → β}

/-- Write to the object with a reference. -/
def write (ref : β → ι) (xs : List β) (i : ι) (f : β → β) : List β := xs.map fun x => if ref x = i then f x else x

/-- Write to each object that a table names. -/
def writeAll (ref : β → ι) (f : κ → β → β) (entries : List (κ × ι)) (xs : List β) : List β :=
  entries.foldl (fun xs e => write ref xs e.2 (f e.1)) xs

/-- What becomes of one object. -/
def written (ref : β → ι) (f : κ → β → β) (entries : List (κ × ι)) (x : β) : β :=
  match entries.find? fun e => e.2 = ref x with
  | none => x
  | some e => f e.1 x

/-- What no reference leads to is not written. -/
theorem written_of_forall_ne {x : β} (h : ∀ e ∈ entries, e.2 ≠ ref x) : written ref f entries x = x := by
  have hnone : (entries.find? fun e => e.2 = ref x) = none := List.find?_eq_none.2 (by simpa using h)
  rw [written, hnone]

/-- What a reference leads to is written with its key. -/
theorem written_of_mem (hnodup : (entries.map Prod.snd).Nodup) {x : β} {k : κ} (h : (k, ref x) ∈ entries) :
    written ref f entries x = f k x := by
  induction entries with
  | nil => simp at h
  | cons e es ih =>
    rw [List.map_cons, List.nodup_cons] at hnodup
    rw [written, List.find?_cons]
    by_cases he : e.2 = ref x
    · rcases List.mem_cons.1 h with rfl | htail
      · simp
      · exact absurd (List.mem_map.2 ⟨(k, ref x), htail, he.symm⟩) hnodup.1
    · have hne : (k, ref x) ≠ e := fun heq => he (by rw [← heq])
      have htail := (List.mem_cons.1 h).resolve_left hne
      rw [decide_eq_false he]
      exact ih hnodup.2 htail

/-- Writing through distinct references writes each element once. -/
theorem writeAll_eq_map (href : ∀ k x, ref (f k x) = ref x) (hnodup : (entries.map Prod.snd).Nodup) (xs : List β) :
    writeAll ref f entries xs = xs.map (written ref f entries) := by
  induction entries generalizing xs with
  | nil => exact (List.map_id xs).symm
  | cons e es ih =>
    rw [List.map_cons, List.nodup_cons] at hnodup
    have hstep : writeAll ref f (e :: es) xs = writeAll ref f es (write ref xs e.2 (f e.1)) := rfl
    rw [hstep, ih hnodup.2, write, List.map_map]
    apply List.map_congr_left
    intro x _
    rw [Function.comp_apply]
    by_cases he : e.2 = ref x
    · -- no later entry has this reference
      have hlater : ∀ e' ∈ es, e'.2 ≠ ref (f e.1 x) := by
        intro e' he' heq
        rw [href, ← he] at heq
        exact hnodup.1 (List.mem_map.2 ⟨e', he', heq⟩)
      rw [if_pos he.symm, written_of_forall_ne hlater, written, List.find?_cons, decide_eq_true he]
    · rw [if_neg (Ne.symm he), written, written, List.find?_cons, decide_eq_false he]

end Refs
