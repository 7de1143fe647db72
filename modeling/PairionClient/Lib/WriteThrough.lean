import PairionClient.Lib.Run

/-!
# Write-through copies

A value in a store, and the copy of it that a program holds while it runs. The program loads the copy when it starts and
writes the store and the copy together, but only a value that differs from the copy; others may edit the store behind its
back. The copy is right in every state exactly when every edit made while the program runs writes what the copy holds anyway
(`always_coherent_iff`), and then the last value written, by the program or by an edit, is the one that the store has
(`stored_run`), over any number of starts.
-/

namespace WriteThrough

open Transition

variable {V : Type*} [DecidableEq V]

/-- The value that is stored, and the copy while there is one. -/
structure Cell (V : Type*) where
  stored : V
  copy : Option V := none

/-- The program starts, unless it runs already, and stops; it writes a value, or others do. -/
inductive Op (V : Type*) where
  | load
  | drop
  | put (v : V)
  | edit (v : V)

namespace Cell

def step (c : Cell V) : Op V → Cell V
  | .load => { c with copy := some (c.copy.getD c.stored) }
  | .drop => { c with copy := none }
  | .put v =>
    match c.copy with
    | none => c
    | some w => if w = v then c else ⟨v, some v⟩
  | .edit v => { c with stored := v }

/-- The copy, if there is one, is what is stored. -/
def Coherent (c : Cell V) : Prop := ∀ w ∈ c.copy, w = c.stored

/-- An edit while there is a copy writes what the copy holds. -/
def Harmless (c : Cell V) : Op V → Prop
  | .edit v => ∀ w ∈ c.copy, w = v
  | _ => True

/-- Only who holds a copy writes through it. -/
def Held (c : Cell V) : Op V → Prop
  | .put _ => c.copy.isSome
  | _ => True

/-- The value that an operation writes. -/
def written : Op V → Option V
  | .put v | .edit v => some v
  | _ => none

/-- The last value written, or the one from before. -/
def lastWritten (v : V) (ops : List (Op V)) : V := ops.foldl (fun v op => (written op).getD v) v

variable {c : Cell V}

/-- A harmless operation leaves the copy right. -/
theorem coherent_step (h : Coherent c) {op : Op V} (hop : Harmless c op) : Coherent (c.step op) := by
  cases op with
  | load =>
    rcases hc : c.copy with - | w
    · simp [Coherent, step, hc]
    · simp [Coherent, step, hc, h w hc]
  | drop => simp [Coherent, step]
  | put v =>
    rcases hc : c.copy with - | w
    · simpa only [step, hc] using h
    · simp only [step, hc]
      split
      · exact h
      · simp [Coherent]
  | edit v => exact hop

/-- An edit that is not harmless leaves the copy wrong. -/
theorem not_coherent_step {op : Op V} (hop : ¬Harmless c op) : ¬Coherent (c.step op) := by
  cases op with
  | edit v => exact hop
  | _ => exact absurd trivial hop

/-- The exact condition for the copy to be right throughout. -/
theorem always_coherent_iff (h : Coherent c) (ops : List (Op V)) :
    Always step Coherent c ops ↔ EveryStep step Harmless c ops :=
  always_iff_everyStep (fun _ => True) Coherent (fun _ => id) (fun _ _ _ h hop => coherent_step h hop)
    (fun _ _ _ _ hop => not_coherent_step hop) (fun _ _ => trivial) h

/-- What a step leaves stored, where the copy is right and the program that writes holds one. -/
theorem stored_step (h : Coherent c) {op : Op V} (hop : Held c op) : (c.step op).stored = (written op).getD c.stored := by
  cases op with
  | put v =>
    obtain ⟨w, hw⟩ := Option.isSome_iff_exists.1 hop
    simp only [step, hw]
    split
    · rename_i heq
      rw [← h w hw, heq]
      rfl
    · rfl
  | _ => rfl

/-- Over such operations the store has the last value written, and the copy is right. -/
theorem stored_run (h : Coherent c) {ops : List (Op V)} (hops : EveryStep step (fun c op => Held c op ∧ Harmless c op) c ops) :
    (run step c ops).stored = lastWritten c.stored ops ∧ Coherent (run step c ops) := by
  induction ops generalizing c with
  | nil => exact ⟨rfl, h⟩
  | cons op ops ih =>
    obtain ⟨⟨hheld, hharmless⟩, hrest⟩ := hops
    have hrun := ih (coherent_step h hharmless) hrest
    rw [stored_step h hheld] at hrun
    exact hrun

end Cell

end WriteThrough
