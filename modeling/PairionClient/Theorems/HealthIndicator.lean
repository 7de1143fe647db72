import PairionClient.Hud.PipelineHealthIndicator
import PairionClient.Lib.Run

/-!
# The indicator follows the health

While the pipeline is not ready the opacity is on its way to one and the timer does not run, so a fade-out that is under way is
turned back by the change that ends the readiness.
-/

namespace PairionClient

open Transition Animation

namespace PipelineHealthIndicator

variable {s : PipelineHealthIndicator} {target : ℚ} {left left' : ℕ}

/-! ## The opacity -/

/-- The opacity is at its target in so many milliseconds. -/
structure Heading (target : ℚ) (left : ℕ) (s : PipelineHealthIndicator) : Prop where
  written : s.targetValue = target
  still : s.behavior = none → s.opacity () = target
  moves : ∀ a ∈ s.behavior, a.Proper ∧ 0 < a.duration ∧ a.duration ≤ left ∧ a.outcome s.opacity () = target

theorem Heading.mono (h : Heading target left s) (hle : left ≤ left') : Heading target left' s := by
  refine ⟨h.written, h.still, fun a ha => ?_⟩
  obtain ⟨hproper, hpos, hless, hend⟩ := h.moves a ha
  exact ⟨hproper, hpos, hless.trans hle, hend⟩

/-- With no time left the opacity is the target. -/
theorem Heading.arrived (h : Heading target 0 s) : s.opacity () = target := by
  refine h.still (Option.eq_none_iff_forall_not_mem.2 fun a ha => ?_)
  obtain ⟨-, hpos, hless, -⟩ := h.moves a ha
  omega

/-- A new target is reached within 800 ms. -/
theorem Heading.writeOpacity (h : Heading target 800 s) (value : ℚ) : Heading value 800 (s.writeOpacity value) := by
  unfold PipelineHealthIndicator.writeOpacity
  split
  · rename_i hsame
    rwa [← hsame.2, h.written]
  split
  · rename_i harrived
    exact ⟨rfl, fun _ => harrived, by simp⟩
  · refine ⟨rfl, by simp, ?_⟩
    rintro a ⟨⟩
    exact ⟨trivial, by simp [Anim.duration], by simp [Anim.duration], by simp [Anim.outcome]⟩

/-- Time that passes is time less to the target. -/
theorem Heading.advance (h : Heading target left s) (ms : ℕ) : Heading target (left - ms) (s.advance ms) := by
  unfold PipelineHealthIndicator.advance
  dsimp only
  split
  · rename_i hnone
    exact ⟨h.written, fun _ => h.still hnone, by simp [hnone]⟩
  · rename_i a ha
    obtain ⟨hproper, hpos, hless, hend⟩ := h.moves a ha
    by_cases hms : ms < a.duration
    · obtain ⟨a', hrest, hduration, houtcome⟩ := Anim.outcome_rest hproper hms s.opacity
      refine ⟨h.written, by simp [hrest], ?_⟩
      intro b hb
      obtain rfl := Option.some.inj (hrest.symm.trans hb)
      exact ⟨Anim.proper_rest hproper _ _ _ hrest, by omega, by omega, (congrFun houtcome ()).trans hend⟩
    · rw [Anim.advance_of_le (Nat.not_lt.1 hms)]
      exact ⟨h.written, fun _ => hend, by simp⟩

/-- A write leaves the rest. -/
theorem rest_writeOpacity (s : PipelineHealthIndicator) (value : ℚ) :
    (s.writeOpacity value).health = s.health ∧ (s.writeOpacity value).fadeOutTimer = s.fadeOutTimer := by
  unfold writeOpacity
  split
  · exact ⟨rfl, rfl⟩
  · split <;> exact ⟨rfl, rfl⟩

/-- Time changes the opacity and the time left of the timer, and nothing else. -/
theorem rest_advance (s : PipelineHealthIndicator) (ms : ℕ) :
    (s.advance ms).health = s.health ∧ (s.advance ms).fadeOutTimer = s.fadeOutTimer.map (· - ms) := by
  unfold advance
  dsimp only
  split <;> exact ⟨rfl, rfl⟩

/-! ## Every state -/

/-- The opacity goes to one where the pipeline is not ready, and for as long as the timer runs. -/
structure Indicates (s : PipelineHealthIndicator) : Prop where
  heading : ∃ target, Heading target 800 s ∧ (s.health ≠ "ready" ∨ s.fadeOutTimer.isSome → target = 1)
  timer : s.health ≠ "ready" → s.fadeOutTimer = none

/-- What a change of the health sets off: the opacity goes to one, and the timer runs if the pipeline is ready. -/
structure Announced (health : String) (elapsed : ℕ) (s : PipelineHealthIndicator) : Prop where
  current : s.health = health
  heading : Heading 1 (800 - elapsed) s
  timer : s.fadeOutTimer = if health = "ready" then some (3000 - elapsed) else none

/-- A health that is announced is indicated. -/
theorem Announced.indicates {health : String} {elapsed : ℕ} (h : Announced health elapsed s) : Indicates s where
  heading := ⟨1, h.heading.mono (Nat.sub_le _ _), fun _ => rfl⟩
  timer := by
    intro hother
    rw [h.timer, if_neg (h.current ▸ hother)]

/-- A change of the health shows the indicator, and arms the timer if it is "ready". -/
theorem announced_onHealthChanged (h : Heading target 800 s) (hready : s.health = "ready" → target = 1) :
    Announced s.health 0 s.onHealthChanged := by
  unfold onHealthChanged
  split
  · rename_i hnow
    rw [hready hnow] at h
    exact ⟨rfl, ⟨h.written, h.still, h.moves⟩, by rw [if_pos hnow]⟩
  · rename_i hother
    have hstopped : Heading target 800 { s with fadeOutTimer := none } := ⟨h.written, h.still, h.moves⟩
    obtain ⟨hhealth, htimer⟩ := rest_writeOpacity { s with fadeOutTimer := none } 1
    exact ⟨hhealth, hstopped.writeOpacity 1, by rw [htimer, if_neg hother]⟩

/-- A new health is announced from then on. -/
theorem Indicates.change (h : Indicates s) {health : String} (hnew : s.health ≠ health) :
    Announced health 0 (s.step (.health health)) := by
  obtain ⟨target, hheading, htarget⟩ := h.heading
  rw [step, if_neg (Ne.symm hnew)]
  have hwritten : Heading target 800 { s with health := health } := ⟨hheading.written, hheading.still, hheading.moves⟩
  refine announced_onHealthChanged hwritten fun hready => htarget (Or.inl ?_)
  rintro hbefore
  exact hnew (hbefore.trans hready.symm)

/-- Every event keeps the indicator as the health says. -/
theorem Indicates.step (h : Indicates s) (e : Event) : Indicates (s.step e) := by
  cases e with
  | health health =>
    by_cases hsame : s.health = health
    · rw [PipelineHealthIndicator.step, if_pos hsame.symm]
      exact h
    · exact (h.change hsame).indicates
  | frame ms =>
    obtain ⟨hhealth, htimer⟩ := rest_advance s ms
    obtain ⟨target, hheading, htarget⟩ := h.heading
    refine ⟨⟨target, (hheading.advance ms).mono (Nat.sub_le _ _), ?_⟩, ?_⟩
    · change (s.advance ms).health ≠ _ ∨ (s.advance ms).fadeOutTimer.isSome → _
      rwa [hhealth, htimer, Option.isSome_map]
    · change (s.advance ms).health ≠ _ → (s.advance ms).fadeOutTimer = none
      rw [hhealth, htimer]
      exact fun hother => by rw [h.timer hother]; rfl
  | triggered =>
    rw [PipelineHealthIndicator.step]
    split
    · rename_i hdue
      obtain ⟨target, hheading, -⟩ := h.heading
      have hstopped : Heading target 800 { s with fadeOutTimer := none } := ⟨hheading.written, hheading.still, hheading.moves⟩
      obtain ⟨hhealth, htimer⟩ := rest_writeOpacity { s with fadeOutTimer := none } 0
      have hready : s.health = "ready" := by
        by_contra hother
        rw [h.timer hother] at hdue
        cases hdue
      refine ⟨⟨0, hstopped.writeOpacity 0, ?_⟩, fun _ => htimer⟩
      rw [onTriggered, hhealth, htimer]
      rintro (hother | hruns)
      · exact absurd hready hother
      · cases hruns
    · exact h

theorem indicates_create (health : String) : Indicates (create health) := by
  have hfresh : Heading 1 800 { health := health } := ⟨rfl, fun _ => rfl, by simp⟩
  exact (announced_onHealthChanged hfresh fun _ => rfl).indicates

/-! ## Since a change -/

/-- The time that goes by. -/
def Event.ms : Event → ℕ
  | .frame ms => ms
  | _ => 0

/-- The time of some events. -/
def time (es : List Event) : ℕ := (es.map Event.ms).sum

/-- An event that is no change of the health. -/
def Event.Quiet : Event → Prop
  | .health _ => False
  | _ => True

/-- The timer has gone off, and the opacity goes to zero. -/
def FadedOut (elapsed : ℕ) (s : PipelineHealthIndicator) : Prop := Heading 0 (800 - elapsed) s ∧ s.fadeOutTimer = none

/-- Time that passes is time since the announcement. -/
theorem Announced.advance {health : String} {elapsed : ℕ} (h : Announced health elapsed s) (ms : ℕ) :
    Announced health (elapsed + ms) (s.advance ms) := by
  obtain ⟨hhealth, htimer⟩ := rest_advance s ms
  refine ⟨hhealth.trans h.current, ?_, ?_⟩
  · rw [← Nat.sub_sub]
    exact h.heading.advance ms
  · rw [htimer, h.timer]
    split
    · rw [Option.map_some, Nat.sub_sub]
    · rfl

/-- The timer's event comes when it is due, and not before. -/
theorem Announced.triggered {health : String} {elapsed : ℕ} (h : Announced health elapsed s) :
    health = "ready" ∧ 3000 ≤ elapsed ∧ FadedOut 0 (s.step .triggered) ∨
      (health = "ready" → elapsed < 3000) ∧ s.step .triggered = s := by
  rw [PipelineHealthIndicator.step]
  by_cases hready : health = "ready"
  · have htimer : s.fadeOutTimer = some (3000 - elapsed) := by rw [h.timer, if_pos hready]
    by_cases hdue : 3000 ≤ elapsed
    · refine Or.inl ⟨hready, hdue, ?_⟩
      have hzero : s.fadeOutTimer = some 0 := by rw [htimer, Nat.sub_eq_zero_of_le hdue]
      have hstopped : Heading 1 800 { s with fadeOutTimer := none } := by
        have hmono := h.heading.mono (Nat.sub_le 800 elapsed)
        exact ⟨hmono.written, hmono.still, hmono.moves⟩
      rw [if_pos hzero]
      exact ⟨hstopped.writeOpacity 0, (rest_writeOpacity { s with fadeOutTimer := none } 0).2⟩
    · refine Or.inr ⟨fun _ => Nat.lt_of_not_le hdue, if_neg ?_⟩
      rw [htimer]
      exact fun heq => hdue (Nat.sub_eq_zero_iff_le.1 (Option.some.inj heq))
  · refine Or.inr ⟨fun hnow => absurd hnow hready, if_neg ?_⟩
    rw [h.timer, if_neg hready]
    exact fun heq => by cases heq

/-- A quiet event leaves the indicator fading out. -/
theorem FadedOut.step {elapsed : ℕ} (h : FadedOut elapsed s) {e : Event} (he : e.Quiet) :
    FadedOut (elapsed + e.ms) (s.step e) := by
  obtain ⟨hheading, htimer⟩ := h
  cases e with
  | health health => exact he.elim
  | frame ms =>
    refine ⟨?_, ?_⟩
    · rw [← Nat.sub_sub]
      exact hheading.advance ms
    · rw [PipelineHealthIndicator.step, (rest_advance s ms).2, htimer]
      rfl
  | triggered =>
    rw [PipelineHealthIndicator.step, htimer, if_neg (by simp)]
    exact ⟨hheading, htimer⟩

/-- Since a change the timer has not gone off, or it has, long enough after it. -/
theorem Announced.step {health : String} {elapsed : ℕ} (h : Announced health elapsed s) {e : Event} (he : e.Quiet) :
    Announced health (elapsed + e.ms) (s.step e) ∨ health = "ready" ∧ 3000 ≤ elapsed ∧ FadedOut 0 (s.step e) := by
  cases e with
  | health health => exact he.elim
  | frame ms => exact Or.inl (h.advance ms)
  | triggered =>
    rcases h.triggered with hgone | ⟨-, hsame⟩
    · exact Or.inr hgone
    · rw [hsame]
      exact Or.inl h

/-- Some time after a change. -/
def After (health : String) (elapsed : ℕ) (s : PipelineHealthIndicator) : Prop :=
  Announced health elapsed s ∨ health = "ready" ∧ 3000 ≤ elapsed ∧ ∃ faded, FadedOut faded s

/-- A quiet event leaves what comes after an announcement. -/
theorem After.step {health : String} {elapsed : ℕ} (h : After health elapsed s) {e : Event} (he : e.Quiet) :
    After health (elapsed + e.ms) (s.step e) := by
  rcases h with hannounced | ⟨hready, hlate, faded, hfaded⟩
  · rcases hannounced.step he with hstill | ⟨hready, hlate, hfaded⟩
    · exact Or.inl hstill
    · exact Or.inr ⟨hready, hlate.trans (Nat.le_add_right _ _), 0, hfaded⟩
  · exact Or.inr ⟨hready, hlate.trans (Nat.le_add_right _ _), _, hfaded.step he⟩

/-- Three seconds after "ready" the timer fades the indicator out. -/
theorem After.triggered {health : String} {elapsed : ℕ} (h : After health elapsed s) (hready : health = "ready")
    (hlate : 3000 ≤ elapsed) : FadedOut 0 (s.step .triggered) := by
  rcases h with hannounced | ⟨-, -, faded, hfaded⟩
  · rcases hannounced.triggered with ⟨-, -, hgone⟩ | ⟨hearly, -⟩
    · exact hgone
    · exact absurd (hearly hready) (Nat.not_lt.2 hlate)
  · obtain ⟨hheading, htimer⟩ := hfaded.step (e := .triggered) trivial
    exact ⟨hheading.mono (Nat.sub_le_sub_left (Nat.zero_le _) 800), htimer⟩

/-- Whatever the health has been before: from 800 ms after a change of it, and for as long as it does not change again,
the indicator is fully visible, where the pipeline is ready for the first three seconds only; and 800 ms after the timer
has gone off at their end it is hidden. -/
theorem indicator_follows_health (initial health : String) (pre es : List Event)
    (hnew : (run step (create initial) pre).health ≠ health) (hes : ∀ e ∈ es, e.Quiet) :
    let s := run step (create initial) (pre ++ .health health :: es)
    (800 ≤ time es → (health = "ready" → time es < 3000) → s.opacity () = 1) ∧
      (health = "ready" → ∀ before after, es = before ++ .triggered :: after → 3000 ≤ time before → 800 ≤ time after →
        s.opacity () = 0) := by
  have hpre := inv_run_of_step Indicates (fun s e h => h.step e) pre (indicates_create initial)
  have hstart := hpre.change hnew
  have hsince : ∀ fs : List Event, (∀ e ∈ fs, e.Quiet) →
      After health (time fs) (run step (create initial) (pre ++ .health health :: fs)) := by
    intro fs hfs
    have hend := run_clock Event.ms (After health) (P := fun _ e => e.Quiet) (fun _ _ _ h he => h.step he) (Or.inl hstart)
      ((everyStep_iff_forall _ _).2 hfs)
    rw [Nat.zero_add] at hend
    rw [run_append, run_cons]
    exact hend
  intro s
  constructor
  · intro htime hearly
    rcases hsince es hes with hannounced | ⟨hready, hlate, -⟩
    · have hthere := hannounced.heading
      rw [Nat.sub_eq_zero_of_le htime] at hthere
      exact hthere.arrived
    · exact absurd (hearly hready) (Nat.not_lt.2 hlate)
  · rintro hready before after rfl hbefore hafter
    obtain ⟨hquiet, hrest⟩ := List.forall_mem_append.1 hes
    have hgone := (hsince before hquiet).triggered hready hbefore
    have hend := run_clock Event.ms FadedOut (P := fun _ e => e.Quiet) (fun _ _ _ h he => h.step he) hgone
      ((everyStep_iff_forall _ _).2 (List.forall_mem_cons.1 hrest).2)
    have hshown : s = run step ((run step (create initial) (pre ++ .health health :: before)).step .triggered) after := by
      change run step (create initial) (pre ++ .health health :: (before ++ .triggered :: after)) = _
      rw [← List.cons_append, ← List.append_assoc, run_append, run_cons]
    have hthere := hend.1
    rw [Nat.zero_add] at hthere
    rw [hshown]
    exact (hthere.mono (Nat.sub_eq_zero_of_le hafter).le).arrived

/-- The microphone fails while the indicator fades out. -/
theorem indicator_follows_health_microphone :
    let s := run step (create "connecting") [.health "ready", .frame 3010, .triggered, .frame 300, .health "mic_offline",
      .frame 450, .frame 450]
    s.opacity () = 1 :=
  (indicator_follows_health "connecting" "mic_offline" [.health "ready", .frame 3010, .triggered, .frame 300]
    [.frame 450, .frame 450] (by decide) (by simp [Event.Quiet])).1 (by decide) (by decide)

end PipelineHealthIndicator

end PairionClient
