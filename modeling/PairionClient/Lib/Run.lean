import Mathlib.Algebra.GroupWithZero.Nat
import Mathlib.Data.List.Basic
import Mathlib.Data.List.Infix

/-!
# Runs of a transition system

A system is a step function `step : σ → ε → σ` on states and events; a run is the left fold of the step over a list of
events. Two kinds of statement are made about a run: `EveryStep`, about each step taken (the state before it and the event),
and `Always`, about each state reached. The rules below are the inductions over a run, each done once: an invariant kept by
every step that meets a condition (`inv_run`), a property of steps traded for another under an invariant
(`everyStep_congr`), the exact condition on the steps under which a property of states is never lost
(`always_iff_everyStep`, and `prefixes_iff_steps` where it speaks of the events so far), a simulation, where each step of one
system is a run of another (`run_simulates`), a part of the state that only some events touch, which depends on these
events alone (`run_depends`), and a part that is a system of its own, to which properties of runs carry over
(`run_filterMap`, `always_filterMap`, `everyStep_filterMap`).
-/

namespace Transition

variable {σ ε τ δ : Type*}

/-- The state that a run of events reaches. -/
def run (step : σ → ε → σ) (s : σ) (es : List ε) : σ := es.foldl step s

@[simp] theorem run_nil (step : σ → ε → σ) (s : σ) : run step s [] = s := rfl

@[simp] theorem run_cons (step : σ → ε → σ) (s : σ) (e : ε) (es : List ε) :
    run step s (e :: es) = run step (step s e) es := rfl

theorem run_append (step : σ → ε → σ) (s : σ) (es fs : List ε) :
    run step s (es ++ fs) = run step (run step s es) fs := List.foldl_append

/-- `P` holds at every step of the run: of the state before the step and of the event. -/
def EveryStep (step : σ → ε → σ) (P : σ → ε → Prop) : σ → List ε → Prop
  | _, [] => True
  | s, e :: es => P s e ∧ EveryStep step P (step s e) es

/-- `P` holds in every state of the run, the first and the last included. -/
def Always (step : σ → ε → σ) (P : σ → Prop) (s : σ) (es : List ε) : Prop :=
  ∀ pre, pre <+: es → P (run step s pre)

variable {step : σ → ε → σ} {P Q : σ → ε → Prop} {R Inv : σ → Prop} {E : ε → Prop}

@[simp] theorem everyStep_nil (s : σ) : EveryStep step P s [] := trivial

@[simp] theorem everyStep_cons (s : σ) (e : ε) (es : List ε) :
    EveryStep step P s (e :: es) ↔ P s e ∧ EveryStep step P (step s e) es := Iff.rfl

theorem everyStep_append (s : σ) (es fs : List ε) :
    EveryStep step P s (es ++ fs) ↔ EveryStep step P s es ∧ EveryStep step P (run step s es) fs := by
  induction es generalizing s with
  | nil => simp
  | cons e es ih => rw [List.cons_append, everyStep_cons, everyStep_cons, ih, run_cons, and_assoc]

/-- A property of events that every event of a run has. -/
theorem EveryStep.of_forall (es : List ε) (h : ∀ e ∈ es, ∀ s, P s e) (s : σ) : EveryStep step P s es := by
  induction es generalizing s with
  | nil => trivial
  | cons e es ih => exact ⟨h e List.mem_cons_self s, ih (fun x hx => h x (List.mem_cons_of_mem e hx)) _⟩

/-- A property of events holds at every step exactly when every event has it. -/
theorem everyStep_iff_forall (s : σ) (es : List ε) : EveryStep step (fun _ e => E e) s es ↔ ∀ e ∈ es, E e := by
  induction es generalizing s with
  | nil => simp
  | cons e es ih => rw [everyStep_cons, ih, List.forall_mem_cons]

theorem EveryStep.mono (hPQ : ∀ s e, P s e → Q s e) {s : σ} {es : List ε} (h : EveryStep step P s es) :
    EveryStep step Q s es := by
  induction es generalizing s with
  | nil => trivial
  | cons e es ih => exact ⟨hPQ s e h.1, ih h.2⟩

/-- The invariant rule: what every step meeting `P` keeps, a run whose steps all meet `P` keeps. -/
theorem inv_run (hstep : ∀ s e, Inv s → P s e → Inv (step s e)) {s : σ} {es : List ε} (hs : Inv s)
    (h : EveryStep step P s es) : Inv (run step s es) := by
  induction es generalizing s with
  | nil => exact hs
  | cons e es ih => exact ih (hstep s e hs h.1) h.2

/-- The invariant rule, for an invariant that every step keeps. -/
theorem inv_run_of_step (Inv : σ → Prop) (hstep : ∀ s e, Inv s → Inv (step s e)) {s : σ} (es : List ε) (hs : Inv s) :
    Inv (run step s es) := by
  induction es generalizing s with
  | nil => exact hs
  | cons e es ih => exact ih (hstep s e hs)

theorem run_concat (step : σ → ε → σ) (s : σ) (es : List ε) (e : ε) : run step s (es ++ [e]) = step (run step s es) e :=
  run_append step s es [e]

/-- The invariant rule, for an invariant that speaks of the events so far. -/
theorem run_history (P : List ε → σ → Prop) {s : σ} (hs : P [] s) (hstep : ∀ es t e, P es t → P (es ++ [e]) (step t e))
    (es : List ε) : P es (run step s es) := by
  induction es using List.reverseRecOn with
  | nil => exact hs
  | append_singleton es e ih =>
    rw [run_concat]
    exact hstep es _ e ih

/-- The invariant rule, for an invariant that counts the time that goes by. -/
theorem run_clock (spent : ε → ℕ) (I : ℕ → σ → Prop) (hstep : ∀ t s e, I t s → P s e → I (t + spent e) (step s e)) {t : ℕ}
    {s : σ} {es : List ε} (hs : I t s) (hes : EveryStep step P s es) : I (t + (es.map spent).sum) (run step s es) := by
  induction es generalizing t s with
  | nil => exact hs
  | cons e es ih =>
    rw [List.map_cons, List.sum_cons, ← Nat.add_assoc]
    exact ih (hstep t s e hs hes.1) hes.2

/-- The invariant rule for steps: where a step meeting `Q` keeps the invariant and has `P`, a run of such steps has `P`.
-/
theorem EveryStep.of_inv (Inv : σ → Prop) (hstep : ∀ s e, Inv s → Q s e → Inv (step s e) ∧ P s e) {s : σ} {es : List ε}
    (hs : Inv s) (h : EveryStep step Q s es) : EveryStep step P s es := by
  induction es generalizing s with
  | nil => trivial
  | cons e es ih =>
    obtain ⟨hinv, hP⟩ := hstep s e hs h.1
    exact ⟨hP, ih hinv h.2⟩

/-- The invariant rule for steps, for an invariant that every step keeps. -/
theorem everyStep_of_inv (Inv : σ → Prop) (hstep : ∀ s e, Inv s → Inv (step s e)) (hP : ∀ s e, Inv s → P s e) {s : σ}
    (es : List ε) (hs : Inv s) : EveryStep step P s es := by
  induction es generalizing s with
  | nil => trivial
  | cons e es ih => exact ⟨hP s e hs, ih (hstep s e hs)⟩

/-- Two properties that agree at every step agree over every run. -/
theorem everyStep_congr (hPQ : ∀ s e, P s e ↔ Q s e) (s : σ) (es : List ε) :
    EveryStep step P s es ↔ EveryStep step Q s es :=
  ⟨fun h => h.mono fun s e => (hPQ s e).1, fun h => h.mono fun s e => (hPQ s e).2⟩

/-- Two properties of steps, under an invariant that the steps meeting the second keep: where they agree at every step,
they agree over every run. -/
theorem everyStep_congr_of_inv (Inv : σ → Prop) (hstep : ∀ s e, Inv s → Q s e → Inv (step s e))
    (hPQ : ∀ s e, Inv s → (P s e ↔ Q s e)) {s : σ} {es : List ε} (hs : Inv s) :
    EveryStep step P s es ↔ EveryStep step Q s es := by
  induction es generalizing s with
  | nil => exact Iff.rfl
  | cons e es ih =>
    rw [everyStep_cons, everyStep_cons, hPQ s e hs]
    exact and_congr_right fun hQ => ih (hstep s e hs hQ)

/-! ## States reached -/

@[simp] theorem always_nil (s : σ) : Always step R s [] ↔ R s := by
  simp [Always]

theorem always_cons (s : σ) (e : ε) (es : List ε) :
    Always step R s (e :: es) ↔ R s ∧ Always step R (step s e) es := by
  constructor
  · intro h
    refine ⟨h [] (List.nil_prefix), fun pre hpre => ?_⟩
    exact h (e :: pre) ((List.prefix_cons_inj e).2 hpre)
  · rintro ⟨h0, h⟩ pre hpre
    cases pre with
    | nil => exact h0
    | cons x pre =>
      obtain ⟨rfl, htail⟩ := List.cons_prefix_cons.1 hpre
      exact h pre htail

/-- The invariant rule for states: what the invariant gives holds in every state of a run whose steps keep it. -/
theorem Always.of_inv (Inv : σ → Prop) (hR : ∀ s, Inv s → R s) (hstep : ∀ s e, Inv s → Q s e → Inv (step s e)) {s : σ}
    {es : List ε} (hs : Inv s) (h : EveryStep step Q s es) : Always step R s es := by
  induction es generalizing s with
  | nil => simpa using hR s hs
  | cons e es ih =>
    rw [always_cons]
    exact ⟨hR s hs, ih (hstep s e hs h.1) h.2⟩

/-- The exact condition on the steps under which a property of states is never lost, for runs of events in `E`: a step
meeting `Q` keeps the invariant, and the invariant gives the property; a step that does not meet `Q` loses the property at
once. -/
theorem always_iff_everyStep (E : ε → Prop) (Inv : σ → Prop) (hR : ∀ s, Inv s → R s)
    (hstep : ∀ s e, E e → Inv s → Q s e → Inv (step s e)) (hlost : ∀ s e, E e → Inv s → ¬Q s e → ¬R (step s e))
    {s : σ} {es : List ε} (hes : ∀ e ∈ es, E e) (hs : Inv s) :
    Always step R s es ↔ EveryStep step Q s es := by
  induction es generalizing s with
  | nil => simpa using hR s hs
  | cons e es ih =>
    have he : E e := hes e List.mem_cons_self
    have hrest : ∀ x ∈ es, E x := fun x hx => hes x (List.mem_cons_of_mem e hx)
    rw [always_cons, everyStep_cons]
    by_cases hQ : Q s e
    · have hs' := hstep s e he hs hQ
      exact ⟨fun h => ⟨hQ, (ih hrest hs').1 h.2⟩, fun h => ⟨hR s hs, (ih hrest hs').2 h.2⟩⟩
    · exact ⟨fun h => absurd (h.2 [] List.nil_prefix) (hlost s e he hs hQ), fun h => absurd h.1 hQ⟩

/-- The same where the property, the condition and the invariant speak of the events so far. -/
theorem prefixes_iff_steps {s : σ} (E : ε → Prop) (Inv R : List ε → σ → Prop) (Q : List ε → σ → ε → Prop)
    (hR : ∀ es t, Inv es t → R es t)
    (hstep : ∀ es t e, E e → Inv es t → Q es t e → Inv (es ++ [e]) (step t e))
    (hlost : ∀ es t e, E e → Inv es t → ¬Q es t e → ¬R (es ++ [e]) (step t e)) {es : List ε} (hes : ∀ e ∈ es, E e)
    (hs : Inv [] s) :
    (∀ pre, pre <+: es → R pre (run step s pre)) ↔ ∀ pre e, pre ++ [e] <+: es → Q pre (run step s pre) e := by
  have hlast : ∀ pre e, pre ++ [e] <+: es → E e := fun pre e h =>
    hes e (h.subset (List.mem_append_right _ (List.mem_singleton_self e)))
  constructor
  · intro h
    -- where the property holds so far, each step has met the condition, and so the invariant holds
    have hinv : ∀ pre, pre <+: es → Inv pre (run step s pre) := by
      intro pre
      induction pre using List.reverseRecOn with
      | nil => exact fun _ => hs
      | append_singleton pre e ih =>
        intro hpre
        have hbefore := ih ((List.prefix_append pre [e]).trans hpre)
        rw [run_concat]
        refine hstep pre _ e (hlast pre e hpre) hbefore (by_contra fun hQ => ?_)
        exact hlost pre _ e (hlast pre e hpre) hbefore hQ (run_concat step s pre e ▸ h _ hpre)
    intro pre e hpre
    by_contra hQ
    have hbefore := hinv pre ((List.prefix_append pre [e]).trans hpre)
    exact hlost pre _ e (hlast pre e hpre) hbefore hQ (run_concat step s pre e ▸ h _ hpre)
  · intro h pre
    suffices hinv : pre <+: es → Inv pre (run step s pre) from fun hpre => hR pre _ (hinv hpre)
    induction pre using List.reverseRecOn with
    | nil => exact fun _ => hs
    | append_singleton pre e ih =>
      intro hpre
      rw [run_concat]
      exact hstep pre _ e (hlast pre e hpre) (ih ((List.prefix_append pre [e]).trans hpre)) (h pre e hpre)

/-! ## Simulation -/

/-- One system simulates another when each step, seen through `abs`, is a run of the other: then so is each run. -/
theorem run_simulates {astep : τ → δ → τ} (abs : σ → τ) (h : ∀ s e, ∃ ds, abs (step s e) = run astep (abs s) ds) (s : σ)
    (es : List ε) : ∃ ds, abs (run step s es) = run astep (abs s) ds := by
  induction es generalizing s with
  | nil => exact ⟨[], rfl⟩
  | cons e es ih =>
    obtain ⟨ds, hds⟩ := h s e
    obtain ⟨ds', hds'⟩ := ih (step s e)
    exact ⟨ds ++ ds', by rw [run_cons, hds', hds, run_append]⟩

/-- The same where the states of the two systems are related. -/
theorem run_simulates_of {astep : τ → δ → τ} (R : σ → τ → Prop) (h : ∀ s t e, R s t → ∃ ds, R (step s e) (run astep t ds))
    {s : σ} {t : τ} (hR : R s t) (es : List ε) : ∃ ds, R (run step s es) (run astep t ds) := by
  induction es generalizing s t with
  | nil => exact ⟨[], hR⟩
  | cons e es ih =>
    obtain ⟨ds, hds⟩ := h s t e hR
    obtain ⟨ds', hds'⟩ := ih hds
    exact ⟨ds ++ ds', by rw [run_append]; exact hds'⟩

/-! ## Parts of the state -/

variable (own : ε → Option δ) (abs : σ → τ)

/-- Events that are not a part's own leave it. -/
theorem run_leaves (hother : ∀ s e, own e = none → abs (step s e) = abs s) {es : List ε} (hes : ∀ e ∈ es, own e = none)
    (s : σ) : abs (run step s es) = abs s := by
  have hstep : ∀ t e, abs t = abs s → own e = none → abs (step t e) = abs s := fun t e ht he => (hother t e he).trans ht
  exact inv_run hstep rfl ((everyStep_iff_forall s es).2 hes)

/-- A part that other events leave depends on its own events only: two runs with the same own events in the same order end
in the same part. An event counts by what `own` gives of it. -/
theorem run_depends (hown : ∀ s s' e e', (own e).isSome → own e = own e' → abs s = abs s' → abs (step s e) = abs (step s' e'))
    (hother : ∀ s e, own e = none → abs (step s e) = abs s) {s s' : σ} {es es' : List ε}
    (hes : es.filterMap own = es'.filterMap own) (hs : abs s = abs s') : abs (run step s es) = abs (run step s' es') := by
  induction es generalizing s s' es' with
  | nil => rw [run_nil, hs, run_leaves own abs hother (List.filterMap_eq_nil_iff.1 hes.symm)]
  | cons e es ih =>
    cases he : own e with
    | none =>
      rw [List.filterMap_cons_none he] at hes
      exact ih hes ((hother s e he).trans hs)
    | some d =>
      rw [List.filterMap_cons_some he] at hes
      obtain ⟨before, e', rest, rfl, hbefore, he', hrest⟩ := List.filterMap_eq_cons_iff.1 hes.symm
      have hmeet : abs s = abs (run step s' before) := hs.trans (run_leaves own abs hother hbefore s').symm
      rw [run_append, run_cons, run_cons]
      exact ih hrest.symm (hown _ _ e e' (he ▸ rfl) (he.trans he'.symm) hmeet)

section System

/-! A part of the state that steps by a system of its own, on the events that are its own. -/

variable {astep : τ → δ → τ} (h : ∀ s e, abs (step s e) = (own e).elim (abs s) (astep (abs s)))
include h

/-- What is seen of a run is the run of the steps that are seen. -/
theorem run_filterMap (s : σ) (es : List ε) : abs (run step s es) = run astep (abs s) (es.filterMap own) := by
  induction es generalizing s with
  | nil => rfl
  | cons e es ih =>
    rw [run_cons, ih, h]
    cases he : own e with
    | none => rw [List.filterMap_cons_none he, Option.elim_none]
    | some d => rw [List.filterMap_cons_some he, Option.elim_some, run_cons]

/-- What holds of each own event in the part holds at each step. -/
theorem everyStep_filterMap (P : τ → δ → Prop) (s : σ) (es : List ε) :
    EveryStep step (fun s e => ∀ d ∈ own e, P (abs s) d) s es ↔ EveryStep astep P (abs s) (es.filterMap own) := by
  induction es generalizing s with
  | nil => exact Iff.rfl
  | cons e es ih =>
    rw [everyStep_cons, ih, h]
    cases he : own e with
    | none =>
      rw [List.filterMap_cons_none he, Option.elim_none]
      exact and_iff_right fun d hd => by cases hd
    | some d =>
      rw [List.filterMap_cons_some he, Option.elim_some, everyStep_cons]
      exact and_congr_left' ⟨fun hP => hP d rfl, fun hP d' hd' => Option.some.inj hd' ▸ hP⟩

/-- What holds of the part in every state of its run holds in every state. -/
theorem always_filterMap (R : τ → Prop) (s : σ) (es : List ε) :
    Always step (fun s => R (abs s)) s es ↔ Always astep R (abs s) (es.filterMap own) := by
  induction es generalizing s with
  | nil => rw [always_nil, List.filterMap_nil, always_nil]
  | cons e es ih =>
    rw [always_cons, ih, h]
    cases he : own e with
    | none =>
      rw [List.filterMap_cons_none he, Option.elim_none]
      exact and_iff_right_of_imp fun hR => by simpa using hR [] List.nil_prefix
    | some d => rw [List.filterMap_cons_some he, Option.elim_some, always_cons]

end System

end Transition
