import PairionClient.Lemmas.Handed

/-!
# The barge-in timer

A single-shot timer outlives the state it was started in unless the exit from that state stops it. The exits to Idle do not.
-/

namespace PairionClient

open Transition

namespace AudioSessionOrchestrator

/-! ## Speech in an episode of playback -/

/-- The orchestrator, and whether a speechStarted has come in the current episode of PlayingBack, after its latest burst
of speech of the reply, with no speechEnded after it. -/
structure Episode where
  orchestrator : AudioSessionOrchestrator
  speech : Bool := false

/-- Whether somebody is speaking after an event. An episode ends with the state PlayingBack, and a burst begins with each
"speaking". -/
def Episode.speechAfter (env : Env) (s : Episode) (e : Event) : Bool :=
  if s.orchestrator.state = .playingBack ∧ (step env s.orchestrator e).state = .playingBack then
    match e with
    | .speechStarted => true
    | .speechEnded => false
    | .speakingStateChanged state => if state = "speaking" then false else s.speech
    | _ => s.speech
  else false

def Episode.step (env : Env) (s : Episode) (e : Event) : Episode := ⟨s.orchestrator.step env e, s.speechAfter env e⟩

/-- The step sends a BargeIn. -/
def SendsBargeIn (env : Env) (o : AudioSessionOrchestrator) (e : Event) : Prop :=
  ∃ interrupted, .text (.bargeIn interrupted) ∈ handed env o e

/-- After the step the timer is armed in PlayingBack only, and the step sends a BargeIn only while somebody speaks. -/
def BargesInOnSpeech (env : Env) (s : Episode) (e : Event) : Prop :=
  ((step env s.orchestrator e).bargeInTimer.isSome = true → (step env s.orchestrator e).state = .playingBack) ∧
    (SendsBargeIn env s.orchestrator e → s.speech = true)

/-- A step that goes to Idle from PlayingBack while the timer is armed. -/
def StrandsTimer (s : Episode) (e : Event) : Prop :=
  e.parks = true ∧ s.orchestrator.state = .playingBack ∧ s.orchestrator.bargeInTimer.isSome = true

/-! ## The timer after a step -/

/-- The timer is started by speech in PlayingBack, and stopped there by the end of speech, by a burst and by the end of
playback; when it expires it is no longer armed. -/
def bargeInTimerAfter (o : AudioSessionOrchestrator) : Event → Option Nat
  | .speechStarted => if o.state = .playingBack then some (o.now + o.bargeInTimerIntervalMs) else o.bargeInTimer
  | .speechEnded => if o.state = .playingBack then none else o.bargeInTimer
  | .speakingStateChanged state =>
    if o.state = .playingBack ∧ (state = "speaking" ∨ state = "idle") then none else o.bargeInTimer
  | .bargeInTimeout _ _ => if due o.bargeInTimer o.now then none else o.bargeInTimer
  | _ => o.bargeInTimer

/-- A move leaves the barge-in timer. -/
theorem bargeInTimer_run (env : Env) (o : AudioSessionOrchestrator) (m : Move) :
    (m.run env o).bargeInTimer = o.bargeInTimer := by
  cases m <;> rfl

/-- The timer is what taking note of the event makes of it. -/
theorem bargeInTimer_noted (o : AudioSessionOrchestrator) (e : Event) :
    (noted o e).bargeInTimer = bargeInTimerAfter o e := by
  cases e <;> simp only [noted, bargeInTimerAfter] <;> first | rfl | split <;> rfl

theorem bargeInTimer_step (env : Env) (o : AudioSessionOrchestrator) (e : Event) :
    (step env o e).bargeInTimer = bargeInTimerAfter o e := by
  rw [step_eq, bargeInTimer_run, bargeInTimer_noted]

/-- An event that parks the session leaves the timer as it is. -/
theorem bargeInTimerAfter_of_parks (o : AudioSessionOrchestrator) {e : Event} (h : e.parks = true) :
    bargeInTimerAfter o e = o.bargeInTimer := by
  cases e with
  | shutdown => rfl
  | wsDisconnected => rfl
  | captureError reason => rfl
  | encoderError reason => rfl
  | _ => cases h

/-! ## Barge-ins -/

/-- What a step keeps: the timer is armed only in PlayingBack while somebody speaks. -/
def Episode.Armed (s : Episode) : Prop :=
  s.orchestrator.bargeInTimer.isSome = true → s.orchestrator.state = .playingBack ∧ s.speech = true

/-- A BargeIn is sent only when the armed timer expires. -/
theorem sendsBargeIn_iff (env : Env) (o : AudioSessionOrchestrator) (e : Event) :
    SendsBargeIn env o e ↔
      (∃ preRoll wasSpeaking, e = .bargeInTimeout preRoll wasSpeaking) ∧ due o.bargeInTimer o.now = true ∧
        o.state = .playingBack := by
  unfold SendsBargeIn
  rw [handed_eq]
  constructor
  · rintro ⟨interrupted, hmem⟩
    cases hm : move env o e with rw [hm] at hmem
    | openStream first preRoll =>
      simp only [Move.frames, openingFrames, List.cons_append, List.nil_append, List.mem_cons, WireFrame.text.injEq,
        text_not_mem_preRollFrames, or_false] at hmem
      rcases hmem with hfirst | hstart
      · cases e with
        | bargeInTimeout preRoll' wasSpeaking =>
          refine ⟨⟨preRoll', wasSpeaking, rfl⟩, ?_⟩
          by_contra hno
          simp [move, hno] at hm
        | wakeWordDetected score preRoll' =>
          simp only [move] at hm
          split at hm
          · rw [← (Move.openStream.inj hm).1] at hfirst
            cases hfirst
          · cases hm
        | _ =>
          simp only [move] at hm
          repeat' split at hm
          all_goals cases hm
      · cases hstart
    | endStream reason playback => simp [Move.frames, closingFrames] at hmem
    | _ => simp [Move.frames] at hmem
  · rintro ⟨⟨preRoll, wasSpeaking, rfl⟩, hdue, hs⟩
    refine ⟨o.inboundStreamId, ?_⟩
    simp [move, hdue, hs, Move.frames, openingFrames]

/-- A timer that is due is armed. -/
theorem isSome_of_due {timer : Option Nat} {now : Nat} (h : due timer now = true) : timer.isSome = true := by
  cases timer with
  | none => cases h
  | some t => rfl

/-- An event that neither parks the orchestrator, nor is about speech, leaves an armed timer armed only in PlayingBack. -/
theorem armed_step (env : Env) {s : Episode} {e : Event} (h : s.Armed) (he : ¬StrandsTimer s e) :
    (s.step env e).Armed := by
  intro harmed
  have htimer : (bargeInTimerAfter s.orchestrator e).isSome = true := by
    rw [← bargeInTimer_step env]
    exact harmed
  show (step env s.orchestrator e).state = .playingBack ∧ s.speechAfter env e = true
  have hstate := (step_spec env s.orchestrator e).state
  -- a timer that was armed before: the orchestrator is in PlayingBack, and somebody speaks
  have hbefore (hsame : bargeInTimerAfter s.orchestrator e = s.orchestrator.bargeInTimer) :
      s.orchestrator.state = .playingBack ∧ s.speech = true := h (by rw [← hsame]; exact htimer)
  have hparks : e.parks = false := by
    by_contra hp
    have hp' : e.parks = true := by simpa using hp
    have hsame := bargeInTimerAfter_of_parks s.orchestrator hp'
    exact he ⟨hp', (hbefore hsame).1, by rw [← hsame]; exact htimer⟩
  cases e with
  | speechStarted =>
    have hs : s.orchestrator.state = .playingBack := by
      by_contra hs
      exact hs (hbefore (if_neg hs)).1
    have hs' : (step env s.orchestrator .speechStarted).state = .playingBack := by
      rw [hstate]
      exact hs
    exact ⟨hs', by rw [Episode.speechAfter, if_pos ⟨hs, hs'⟩]⟩
  | speechEnded =>
    by_cases hs : s.orchestrator.state = .playingBack
    · simp [bargeInTimerAfter, hs] at htimer
    · exact absurd (hbefore (if_neg hs)).1 hs
  | speakingStateChanged state =>
    by_cases hstop : s.orchestrator.state = .playingBack ∧ (state = "speaking" ∨ state = "idle")
    · simp [bargeInTimerAfter, hstop] at htimer
    · obtain ⟨hs, hspeech⟩ := hbefore (if_neg hstop)
      have hother : state ≠ "speaking" ∧ state ≠ "idle" := by
        rw [not_and_or, not_or] at hstop
        exact hstop.resolve_left (not_not.2 hs)
      have hs' : (step env s.orchestrator (.speakingStateChanged state)).state = .playingBack := by
        rw [hstate]
        simp [move, hother, Move.target, hs]
      refine ⟨hs', ?_⟩
      rw [Episode.speechAfter, if_pos ⟨hs, hs'⟩]
      simp [hother, hspeech]
  | bargeInTimeout preRoll wasSpeaking =>
    by_cases hdue : due s.orchestrator.bargeInTimer s.orchestrator.now = true
    · simp [bargeInTimerAfter, hdue] at htimer
    · obtain ⟨hs, hspeech⟩ := hbefore (if_neg hdue)
      have hs' : (step env s.orchestrator (.bargeInTimeout preRoll wasSpeaking)).state = .playingBack := by
        rw [hstate]
        simp [move, hdue, Move.target, hs]
      refine ⟨hs', ?_⟩
      unfold Episode.speechAfter
      rw [if_pos ⟨hs, hs'⟩]
      exact hspeech
  | shutdown => cases hparks
  | wsDisconnected => cases hparks
  | captureError reason => cases hparks
  | encoderError reason => cases hparks
  | _ =>
    obtain ⟨hs, hspeech⟩ := hbefore rfl
    simp only [move, hs, reduceCtorEq, if_false, false_and, and_false, Move.target] at hstate
    refine ⟨hstate, ?_⟩
    unfold Episode.speechAfter
    rw [if_pos ⟨hs, hstate⟩]
    exact hspeech

/-- Where the timer follows the speech, a step that does not strand it barges in on speech only. -/
theorem bargesInOnSpeech_step (env : Env) {s : Episode} {e : Event} (h : s.Armed) (he : ¬StrandsTimer s e) :
    BargesInOnSpeech env s e := by
  refine ⟨fun harmed => (armed_step env h he harmed).1, ?_⟩
  intro hsends
  obtain ⟨-, hdue, -⟩ := (sendsBargeIn_iff env s.orchestrator e).1 hsends
  exact (h (isSome_of_due hdue)).2

/-- A stranded timer is armed in Idle. -/
theorem not_bargesInOnSpeech_step (env : Env) {s : Episode} {e : Event} (he : StrandsTimer s e) :
    ¬BargesInOnSpeech env s e := by
  obtain ⟨hparks, -, htimer⟩ := he
  rintro ⟨harmed, -⟩
  have hsome : (step env s.orchestrator e).bargeInTimer.isSome = true := by
    rw [bargeInTimer_step, bargeInTimerAfter_of_parks s.orchestrator hparks]
    exact htimer
  have hidle : (step env s.orchestrator e).state = .idle := (state_idle_step env s.orchestrator e).2 (Or.inl hparks)
  rw [harmed hsome] at hidle
  cases hidle

/-- In a run from the construction of the orchestrator on, the barge-in timer is armed in PlayingBack only, and a BargeIn
is sent only while somebody speaks, at every step exactly when no step of the run strands the timer. -/
theorem barges_in_on_speech_iff (env : Env) (vad : SileroVad) (wsClient : PairionWebSocketClient)
    (connState : ConnectionState) (es : List Event) :
    EveryStep (Episode.step env) (BargesInOnSpeech env) ⟨create vad wsClient connState, false⟩ es ↔
      EveryStep (Episode.step env) (fun s e => ¬StrandsTimer s e) ⟨create vad wsClient connState, false⟩ es := by
  refine everyStep_congr_of_inv Episode.Armed (fun _ _ h he => armed_step env h he) ?_ nofun
  intro s e h
  exact ⟨fun hbarge he => not_bargesInOnSpeech_step env he hbarge, fun he => bargesInOnSpeech_step env h he⟩

/-- Somebody speaks into a reply and the connection is lost. It comes back with another reply before 400 ms have passed,
and the old timer barges in on it, though nobody speaks. -/
theorem barges_in_on_speech_false :
    ¬∀ (env : Env) (vad : SileroVad) (wsClient : PairionWebSocketClient) (connState : ConnectionState) (es : List Event),
      EveryStep (Episode.step env) (BargesInOnSpeech env) ⟨create vad wsClient connState, false⟩ es := by
  intro h
  obtain ⟨-, -, -, -, -, -, -, ⟨-, hspeech⟩, -⟩ := h .silence {} { socket := .connected } {}
    [.startListening, .speakingStateChanged "speaking", .speechStarted, .wsDisconnected, .sessionOpened,
      .speakingStateChanged "speaking", .timePasses 400, .bargeInTimeout [] true]
  have hspoken := hspeech ((sendsBargeIn_iff _ _ _).2 ⟨⟨[], true, rfl⟩, by decide, by decide⟩)
  exact absurd hspoken (by decide)

end AudioSessionOrchestrator

end PairionClient
