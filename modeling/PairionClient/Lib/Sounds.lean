import Mathlib.Data.List.Basic
import Mathlib.Data.Int.Order.Basic

/-!
# Sounds and silences in a sequence of windows

A window is an instant and whether it is loud. A silence of length `S` ends at a quiet window when the windows before it
have been quiet for at least `S`. A sound starts at a loud window with which nothing was going on: no loud window came
before, or a silence of length `S` has ended since the last one. `InTime` says that every sound is ended by a silence
before a deadline counted from its start. `idleInTime` decides it, window by window, with nothing but the start of the
sound and of the quiet to remember.
-/

namespace Sounds

/-- An instant, and whether it is loud then. -/
abbrev Window : Type := Nat × Bool

/-- Since when the windows have been quiet: `none` after a loud one. `acc` is what was before them. -/
def quietSince (acc : Option Nat) : List Window → Option Nat
  | [] => acc
  | (_, true) :: ws => quietSince none ws
  | (t, false) :: ws => quietSince (some (acc.getD t)) ws

/-- A silence of length `S` ends at `w`, after the windows `ws`. -/
def Ends (S : Int) (acc : Option Nat) (ws : List Window) (w : Window) : Prop :=
  w.2 = false ∧ ∃ q, quietSince acc ws = some q ∧ S ≤ w.1 - q

/-- All windows are quiet. -/
def Quiet (ws : List Window) : Prop := ∀ w ∈ ws, w.2 = false

/-- Before a deadline, or at it when `atDeadline` counts. -/
def Before (atDeadline : Bool) (t d : Nat) : Prop := t < d ∨ (atDeadline = true ∧ t = d)

instance (atDeadline : Bool) (t d : Nat) : Decidable (Before atDeadline t d) := inferInstanceAs (Decidable (_ ∨ _))

/-- A silence ends before the deadline. -/
def EndsBefore (S : Int) (atDeadline : Bool) (acc : Option Nat) (d : Nat) (ws : List Window) : Prop :=
  ∃ m w r, ws = m ++ w :: r ∧ Ends S acc m w ∧ Before atDeadline w.1 d

/-- A silence has ended, and it has been quiet since. -/
def Rested (S : Int) (acc : Option Nat) (ws : List Window) : Prop :=
  ∃ m w r, ws = m ++ w :: r ∧ Ends S acc m w ∧ Quiet r

/-- Nothing is going on after the windows `a`: a loud window that follows starts a sound. -/
def Rests (S : Int) (a : List Window) : Prop := Quiet a ∨ Rested S none a

/-- Every sound is ended by a silence of length `S` before `B` has passed since its start. -/
def InTime (S : Int) (B : Nat) (atDeadline : Bool) (ws : List Window) : Prop :=
  ∀ a t b, ws = a ++ (t, true) :: b → Rests S a → EndsBefore S atDeadline none (t + B) b

/-! ## Window by window -/

variable {S : Int} {B : Nat} {atDeadline : Bool}

/-- Since when it has been quiet after one more window. -/
def next (acc : Option Nat) (w : Window) : Option Nat := if w.2 then none else some (acc.getD w.1)

theorem ends_cons (acc : Option Nat) (v : Window) (ws : List Window) (w : Window) :
    Ends S acc (v :: ws) w ↔ Ends S (next acc v) ws w := by
  obtain ⟨t, _ | _⟩ := v <;> rfl

theorem ends_nil (acc : Option Nat) (w : Window) : Ends S acc [] w ↔ w.2 = false ∧ ∃ q, acc = some q ∧ S ≤ w.1 - q :=
  Iff.rfl

theorem quiet_cons (w : Window) (ws : List Window) : Quiet (w :: ws) ↔ w.2 = false ∧ Quiet ws := by
  simp [Quiet]

/-- Splitting a list at a window: at its head, or later. -/
theorem exists_split_cons {p : List Window → Window → List Window → Prop} (v : Window) (ws : List Window) :
    (∃ m w r, v :: ws = m ++ w :: r ∧ p m w r) ↔ p [] v ws ∨ ∃ m w r, ws = m ++ w :: r ∧ p (v :: m) w r := by
  constructor
  · rintro ⟨m, w, r, h, hp⟩
    cases m with
    | nil =>
      obtain ⟨rfl, rfl⟩ := List.cons.inj h
      exact .inl hp
    | cons x m =>
      obtain ⟨rfl, htail⟩ := List.cons.inj h
      exact .inr ⟨m, w, r, htail, hp⟩
  · rintro (hp | ⟨m, w, r, h, hp⟩)
    · exact ⟨[], v, ws, rfl, hp⟩
    · exact ⟨v :: m, w, r, by rw [h]; rfl, hp⟩

theorem endsBefore_cons (acc : Option Nat) (d : Nat) (v : Window) (ws : List Window) :
    EndsBefore S atDeadline acc d (v :: ws) ↔
      (Ends S acc [] v ∧ Before atDeadline v.1 d) ∨ EndsBefore S atDeadline (next acc v) d ws := by
  simp only [EndsBefore, exists_split_cons, ends_cons]

theorem rested_cons (acc : Option Nat) (v : Window) (ws : List Window) :
    Rested S acc (v :: ws) ↔ (Ends S acc [] v ∧ Quiet ws) ∨ Rested S (next acc v) ws := by
  simp only [Rested, exists_split_cons, ends_cons]

theorem not_endsBefore_nil (acc : Option Nat) (d : Nat) : ¬EndsBefore S atDeadline acc d [] := by
  rintro ⟨m, w, r, h, -⟩
  simp at h

theorem not_rested_nil (acc : Option Nat) : ¬Rested S acc [] := by
  rintro ⟨m, w, r, h, -⟩
  simp at h

/-- Once something loud has come, what was before the windows does not matter. -/
theorem rested_iff_of_loud (acc acc' : Option Nat) {a : List Window} (h : ¬Quiet a) : Rested S acc a ↔ Rested S acc' a := by
  induction a generalizing acc acc' with
  | nil => exact absurd nofun h
  | cons w a ih =>
    rw [rested_cons, rested_cons]
    by_cases hw : w.2 = true
    · simp [ends_nil, next, hw]
    · have ha : ¬Quiet a := fun ha => h ((quiet_cons w a).2 ⟨by simpa using hw, ha⟩)
      simp only [ha, and_false, false_or]
      exact ih _ _ ha

/-- A silence that ends before the deadline ends at one of the windows. -/
theorem EndsBefore.exists_mem {acc : Option Nat} {d : Nat} {ws : List Window} (h : EndsBefore S atDeadline acc d ws) :
    ∃ w ∈ ws, Before atDeadline w.1 d := by
  obtain ⟨m, w, r, rfl, -, hw⟩ := h
  exact ⟨w, by simp, hw⟩

/-- A condition on every split at a loud window: at the head, and later. -/
theorem forall_split_cons {p : List Window → Nat → List Window → Prop} (v : Window) (ws : List Window) :
    (∀ a t b, v :: ws = a ++ (t, true) :: b → p a t b) ↔
      (v.2 = true → p [] v.1 ws) ∧ ∀ a t b, ws = a ++ (t, true) :: b → p (v :: a) t b := by
  constructor
  · intro h
    refine ⟨fun hv => h [] v.1 ws (by rw [← hv]; rfl), fun a t b hsplit => h (v :: a) t b (by rw [hsplit]; rfl)⟩
  · rintro ⟨hhead, htail⟩ a t b hsplit
    cases a with
    | nil =>
      obtain ⟨rfl, rfl⟩ := List.cons.inj hsplit
      exact hhead rfl
    | cons x a =>
      obtain ⟨rfl, hrest⟩ := List.cons.inj hsplit
      exact htail a t b hrest

/-! ## Deciding it -/

mutual

/-- `InTime` decided from a state of rest. -/
def idleInTime (S : Int) (B : Nat) (atDeadline : Bool) : List Window → Bool
  | [] => true
  | (t, true) :: ws => soundInTime S B atDeadline (t + B) none ws
  | (_, false) :: ws => idleInTime S B atDeadline ws

/-- The same in a sound whose deadline is `d`, quiet since `acc`. -/
def soundInTime (S : Int) (B : Nat) (atDeadline : Bool) (d : Nat) (acc : Option Nat) : List Window → Bool
  | [] => false
  | (_, true) :: ws => soundInTime S B atDeadline d none ws
  | (t, false) :: ws =>
    match acc with
    | none => soundInTime S B atDeadline d (some t) ws
    | some q =>
      if S ≤ (t : Int) - q then decide (Before atDeadline t d) && idleInTime S B atDeadline ws
      else soundInTime S B atDeadline d (some q) ws

end

/-- An earlier time is in time as well. -/
theorem before_of_le {t t' d : Nat} (h : t ≤ t') (h' : Before atDeadline t' d) : Before atDeadline t d := by
  rcases h' with h' | ⟨hd, h'⟩
  · exact .inl (by omega)
  · rcases Nat.lt_or_eq_of_le h with hlt | heq
    · exact .inl (by omega)
    · exact .inr ⟨hd, heq.trans h'⟩

/-- Nothing is going on when it is quiet, or has been since a silence, whatever was before. -/
theorem rests_iff (acc : Option Nat) (a : List Window) : Rests S a ↔ Quiet a ∨ Rested S acc a := by
  by_cases ha : Quiet a
  · simp [Rests, ha]
  · simp [Rests, ha, rested_iff_of_loud acc none ha]

/-- At rest, quiet windows change nothing. -/
theorem rests_cons_quiet (t : Nat) (a : List Window) : Rests S ((t, false) :: a) ↔ Rests S a := by
  simp only [Rests, quiet_cons, true_and, rested_cons, ends_nil]
  by_cases ha : Quiet a
  · simp [ha]
  · simp [ha, rested_iff_of_loud _ none ha]

/-- What decides, window by window, is what `InTime` says; the windows come in the order of time. -/
theorem idleInTime_iff {ws : List Window} (hsorted : ws.Pairwise fun v w => v.1 ≤ w.1) :
    (idleInTime S B atDeadline ws = true ↔ InTime S B atDeadline ws) ∧
      ∀ d acc, soundInTime S B atDeadline d acc ws = true ↔
        EndsBefore S atDeadline acc d ws ∧
          ∀ a t b, ws = a ++ (t, true) :: b → Rested S acc a → EndsBefore S atDeadline none (t + B) b := by
  induction ws with
  | nil => exact ⟨by simp [idleInTime, InTime], by simp [soundInTime, not_endsBefore_nil]⟩
  | cons w ws ih =>
    obtain ⟨hfirst, hrest⟩ := List.pairwise_cons.1 hsorted
    obtain ⟨ihidle, ihsound⟩ := ih hrest
    obtain ⟨t, _ | _⟩ := w
    · constructor
      · rw [idleInTime, ihidle, InTime, InTime, forall_split_cons]
        simp only [Bool.false_eq_true, false_implies, true_and, rests_cons_quiet]
      · intro d acc
        rw [endsBefore_cons, forall_split_cons]
        simp only [Bool.false_eq_true, false_implies, true_and, rested_cons, ends_nil, next, if_false]
        cases acc with
        | none => simp [soundInTime, ihsound]
        | some q =>
          rw [soundInTime]
          split
          · -- the silence ends here, and the sound with it: nothing later can end it earlier
            rename_i hsilence
            have hlater (h : EndsBefore S atDeadline (some q) d ws) : Before atDeadline t d := by
              obtain ⟨w, hw, hbefore⟩ := h.exists_mem
              exact before_of_le (hfirst w hw) hbefore
            rw [Bool.and_eq_true, decide_eq_true_eq, ihidle, InTime]
            simp only [Option.some.injEq, exists_eq_left', hsilence, true_and, Option.getD_some, rests_iff (some q)]
            exact and_congr_left' ⟨.inl, fun h => h.elim id hlater⟩
          · rename_i hsilence
            simp [ihsound, hsilence]
    · constructor
      · rw [idleInTime, ihsound, InTime, forall_split_cons]
        simp [Rests, Quiet, rested_cons, ends_nil, next]
      · intro d acc
        rw [soundInTime, ihsound, endsBefore_cons, forall_split_cons]
        simp [rested_cons, ends_nil, next, not_rested_nil]

/-- A sound is not ended when no window comes before its deadline. -/
theorem soundInTime_eq_false {ws : List Window} (hsorted : ws.Pairwise fun v w => v.1 ≤ w.1) {d : Nat}
    (h : ∀ w ∈ ws, ¬Before atDeadline w.1 d) (acc : Option Nat) : soundInTime S B atDeadline d acc ws = false := by
  rw [Bool.eq_false_iff]
  intro htrue
  obtain ⟨w, hw, hbefore⟩ := (((idleInTime_iff hsorted).2 d acc).1 htrue).1.exists_mem
  exact h w hw hbefore

/-! ## A silence as long as the deadline -/

/-- The time since when it is quiet is the given one or that of a window. -/
theorem quietSince_mem {acc : Option Nat} {ws : List Window} {q : Nat} (h : quietSince acc ws = some q) :
    acc = some q ∨ ∃ w ∈ ws, w.1 = q := by
  induction ws generalizing acc with
  | nil => exact .inl h
  | cons w ws ih =>
    obtain ⟨t, _ | _⟩ := w <;> rcases ih h with hacc | ⟨w, hw, hq⟩
    · cases acc with
      | none => exact .inr ⟨(t, false), List.mem_cons_self, by simpa using hacc⟩
      | some q' => exact .inl hacc
    · exact .inr ⟨w, List.mem_cons_of_mem _ hw, hq⟩
    · cases hacc
    · exact .inr ⟨w, List.mem_cons_of_mem _ hw, hq⟩

/-- A list that is not quiet has a first loud window. -/
theorem exists_rests_of_not_quiet {ws : List Window} (h : ¬Quiet ws) : ∃ a t b, ws = a ++ (t, true) :: b ∧ Quiet a := by
  induction ws with
  | nil => exact absurd nofun h
  | cons w ws ih =>
    obtain ⟨t, _ | _⟩ := w
    · obtain ⟨a, t', b, hsplit, ha⟩ := ih fun hq => h ((quiet_cons _ _).2 ⟨rfl, hq⟩)
      exact ⟨(t, false) :: a, t', b, by rw [hsplit]; rfl, (quiet_cons _ _).2 ⟨rfl, ha⟩⟩
    · exact ⟨[], t, ws, rfl, nofun⟩

/-- A silence longer than the deadline never ends a sound in time. -/
theorem not_inTime_of_lt (hB : (B : Int) < S) {ws : List Window} (hsorted : ws.Pairwise fun v w => v.1 ≤ w.1)
    (hloud : ¬Quiet ws) : ¬InTime S B atDeadline ws := by
  intro h
  obtain ⟨a, t, b, rfl, ha⟩ := exists_rests_of_not_quiet hloud
  obtain ⟨m, w, r, rfl, ⟨-, q, hq, hlong⟩, hbefore⟩ := h a t b rfl (.inl ha)
  have hafter := (List.pairwise_cons.1 (List.pairwise_append.1 hsorted).2.1).1
  rcases quietSince_mem hq with hnone | ⟨v, hv, rfl⟩
  · cases hnone
  · have hv' : t ≤ v.1 := hafter v (List.mem_append_left _ hv)
    rcases hbefore with hw | ⟨-, hw⟩ <;> omega

end Sounds
