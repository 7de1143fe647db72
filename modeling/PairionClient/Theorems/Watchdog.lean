import PairionClient.Lemmas.Handed

/-!
# The streaming timeout

Streaming is entered by a wake word and by a barge-in, and left in many ways; each starts or stops the timer itself. A
stream is known by its id and by the instant at which it was opened.
-/

namespace PairionClient

open Transition

namespace AudioSessionOrchestrator

/-! ## The timer and the voice state after a step -/

/-- The timer after a step that makes a move. -/
def streamingTimeoutAfter (o : AudioSessionOrchestrator) (e : Event) : Move → Option Nat
  | .openStream _ _ => some (o.now + kStreamingTimeoutMs)
  | .endStream _ _ | .park => none
  | _ => if e = .streamingTimeout ∧ due o.streamingTimeout o.now = true then none else o.streamingTimeout

/-- The timeout goes off when it is due, and else stays armed. -/
theorem streamingTimeout_noted (o : AudioSessionOrchestrator) (e : Event) :
    (noted o e).streamingTimeout =
      if e = .streamingTimeout ∧ due o.streamingTimeout o.now = true then none else o.streamingTimeout := by
  cases e <;> simp [noted] <;> split <;> rfl

/-- After a step the timeout is what its move makes of it. -/
theorem streamingTimeout_step (env : Env) (o : AudioSessionOrchestrator) (e : Event) :
    (step env o e).streamingTimeout = streamingTimeoutAfter o e (move env o e) := by
  rw [step_eq]
  cases hm : move env o e with
  | openStream first preRoll =>
    have hnow := (quiet_of_move env (by simp [hm] : move env o e ≠ .stay)).2
    simp only [Move.run, streamingTimeoutAfter, now_noted, hnow]
  | endStream reason playback => rfl
  | park => rfl
  | _ => exact streamingTimeout_noted o e

/-- Taking note of an event leaves the voice state. -/
theorem voiceState_noted (o : AudioSessionOrchestrator) (e : Event) :
    (noted o e).connState.voiceState = o.connState.voiceState := by
  cases e with
  | bargeInTimeout preRoll wasSpeaking =>
    simp only [noted]
    split
    · split <;> rfl
    · rfl
  | _ => simp only [noted] <;> first | rfl | split <;> rfl

/-- A move made from a state it can be made from names the state it leads to, unless it stays. -/
theorem voiceState_run (env : Env) {o : AudioSessionOrchestrator} {m : Move} (h : m.Source o.state) :
    (m.run env o).connState.voiceState =
      if m.target o.state = o.state then o.connState.voiceState else (m.target o.state).voiceName := by
  cases m with
  | stay => simp [Move.run, Move.target]
  | sendFrame opusFrame => simp [Move.run, Move.target]
  | listen =>
    have hs : o.state = .idle := h
    simp [Move.run, Move.target, hs, ConnectionState.setVoiceState, PipelineState.voiceName]
  | openStream first preRoll =>
    have hs : PipelineState.streaming ≠ o.state := by
      intro hs
      cases first <;> simp [Move.Source, ← hs] at h
    simp [Move.run, Move.target, hs, ConnectionState.setVoiceState, PipelineState.voiceName]
  | endStream reason playback =>
    have hs : o.state = .streaming := h
    cases playback <;> simp [Move.run, Move.target, hs, ConnectionState.setVoiceState, PipelineState.voiceName]
  | playBack =>
    rcases h with hs | hs
    · simp [Move.run, Move.target, hs, ConnectionState.setVoiceState, PipelineState.voiceName]
    · simp [Move.run, Move.target, hs]
  | finish =>
    have hs : o.state = .playingBack := h
    simp [Move.run, Move.target, hs, ConnectionState.setVoiceState, PipelineState.voiceName]
  | park =>
    by_cases hs : o.state = .idle
    · simp [Move.run, Move.target, connStateAtIdle, hs]
    · simp [Move.run, Move.target, connStateAtIdle, hs, Ne.symm hs, ConnectionState.setVoiceState, PipelineState.voiceName]

/-- The voice state follows the state. -/
theorem voiceState_step (env : Env) (o : AudioSessionOrchestrator) (e : Event) :
    (step env o e).connState.voiceState =
      if (step env o e).state = o.state then o.connState.voiceState else (step env o e).state.voiceName := by
  have hsource : (move env o e).Source (noted o e).state := by
    rw [state_noted]
    exact move_source env o e
  rw [step_eq, voiceState_run env hsource, state_run, state_noted, voiceState_noted]

/-- Every step lets the time of its event pass. -/
theorem now_step (env : Env) (o : AudioSessionOrchestrator) (e : Event) : (step env o e).now = nowAfter o.now e := by
  rw [step_eq, ← now_noted]
  cases move env o e <;> rfl

/-! ## The streams of a run -/

/-- The orchestrator, the id of the stream opened last and the instant at which it was opened, and whether the state has
changed since the beginning. -/
structure Watched where
  orchestrator : AudioSessionOrchestrator
  openedId : String := ""
  openedAt : Nat := 0
  moved : Bool := false

/-- The step opens a stream: it enters Streaming. -/
def OpensStream (env : Env) (o : AudioSessionOrchestrator) (e : Event) : Prop :=
  o.state ≠ .streaming ∧ (step env o e).state = .streaming

instance (env : Env) (o : AudioSessionOrchestrator) (e : Event) : Decidable (OpensStream env o e) :=
  inferInstanceAs (Decidable (_ ∧ _))

def Watched.step (env : Env) (s : Watched) (e : Event) : Watched where
  orchestrator := s.orchestrator.step env e
  openedId := if OpensStream env s.orchestrator e then (s.orchestrator.step env e).activeStreamId else s.openedId
  openedAt := if OpensStream env s.orchestrator e then s.orchestrator.now else s.openedAt
  moved := s.moved || (s.orchestrator.step env e).state ≠ s.orchestrator.state

/-- The timer is armed exactly while Streaming, from the instant at which the stream was opened, and the voice state names
the state once that has changed. -/
structure Watched.Guarded (s : Watched) : Prop where
  armed : s.orchestrator.streamingTimeout.isSome = true ↔ s.orchestrator.state = .streaming
  started : s.orchestrator.state = .streaming →
    s.orchestrator.streamingTimeout = some (s.openedAt + kStreamingTimeoutMs) ∧ s.orchestrator.activeStreamId = s.openedId
  voiceState : s.moved = true → s.orchestrator.connState.voiceState = s.orchestrator.state.voiceName

/-- The timer has expired on the stream that is open. -/
def Watched.Overdue (s : Watched) : Prop :=
  s.orchestrator.state = .streaming ∧ s.openedAt + kStreamingTimeoutMs ≤ s.orchestrator.now

instance (s : Watched) : Decidable s.Overdue := inferInstanceAs (Decidable (_ ∧ _))

/-- A timeout closes the stream that armed the timer, once its 30 s have passed, and does nothing otherwise. -/
def Watched.TimeoutEndsOwn (env : Env) (s : Watched) : Prop :=
  handed env s.orchestrator .streamingTimeout = (if s.Overdue then closingFrames s.openedId "timeout" else []) ∧
    (s.orchestrator.step env .streamingTimeout).state = if s.Overdue then .awaitingWake else s.orchestrator.state

/-- Time does not pass the instant at which the timer expires: the event loop is not late. -/
def Watched.onTime (s : Watched) : Event → Bool
  | .timePasses ms => s.orchestrator.streamingTimeout.all (s.orchestrator.now + ms ≤ ·)
  | _ => true

/-- The stream that is open has not outlived its 30 s. -/
def Watched.WithinCap (s : Watched) : Prop :=
  s.orchestrator.state = .streaming → s.orchestrator.now ≤ s.openedAt + kStreamingTimeoutMs

/-- A stream is opened by the one move that starts the timer. -/
theorem opensStream_iff (env : Env) (o : AudioSessionOrchestrator) (e : Event) :
    OpensStream env o e ↔ ∃ first preRoll, move env o e = .openStream first preRoll := by
  have hsource := move_source env o e
  rw [OpensStream, (step_spec env o e).state]
  cases hm : move env o e with rw [hm] at hsource
  | openStream first preRoll =>
    have hs : o.state ≠ .streaming := by
      intro hs
      cases first <;> simp [Move.Source, hs] at hsource
    simp [Move.target, hs]
  | endStream reason playback => cases playback <;> simp [Move.target]
  | _ => simp [Move.target]

/-- A step that stays in Streaming leaves the timer and the stream as they are. -/
theorem streaming_kept (env : Env) {o : AudioSessionOrchestrator} {e : Event} (hs : o.state = .streaming)
    (hs' : (step env o e).state = .streaming) :
    (step env o e).streamingTimeout = o.streamingTimeout ∧ (step env o e).activeStreamId = o.activeStreamId := by
  have hid := (step_spec env o e).activeStreamId hs'
  have hrun : ¬(e = .streamingTimeout ∧ due o.streamingTimeout o.now = true) := by
    rintro ⟨rfl, hdue⟩
    rw [(step_spec env o .streamingTimeout).state] at hs'
    simp [move, hdue, hs, Move.target] at hs'
  rw [streamingTimeout_step]
  rcases move_streaming env hs hs' with ⟨opusFrame, -, hm⟩ | ⟨-, hm⟩
  · rw [hm] at hid ⊢
    exact ⟨if_neg hrun, hid⟩
  · rw [hm] at hid ⊢
    exact ⟨if_neg hrun, hid⟩

/-- A step that does not end in Streaming leaves no timer armed. -/
theorem timer_stopped (env : Env) {o : AudioSessionOrchestrator} {e : Event}
    (h : o.streamingTimeout.isSome = true ↔ o.state = .streaming) (hs' : (step env o e).state ≠ .streaming) :
    (step env o e).streamingTimeout = none := by
  have hnone (hs : o.state ≠ .streaming) : o.streamingTimeout = none := by
    have hnot : ¬o.streamingTimeout.isSome = true := fun hsome => hs (h.1 hsome)
    simpa using hnot
  have hsource := move_source env o e
  rw [(step_spec env o e).state] at hs'
  rw [streamingTimeout_step]
  cases hm : move env o e with rw [hm] at hs' hsource
  | openStream first preRoll => exact absurd rfl hs'
  | endStream reason playback => rfl
  | park => rfl
  | stay => simp [streamingTimeoutAfter, hnone hs']
  | sendFrame opusFrame => exact absurd hsource hs'
  | listen => simp [streamingTimeoutAfter, hnone (by rw [show o.state = .idle from hsource]; decide)]
  | finish => simp [streamingTimeoutAfter, hnone (by rw [show o.state = .playingBack from hsource]; decide)]
  | playBack =>
    have hs : o.state ≠ .streaming := by
      rcases hsource with hs | hs <;> simp [hs]
    simp [streamingTimeoutAfter, hnone hs]

/-- Every event keeps the streams guarded. -/
theorem guarded_step (env : Env) {s : Watched} (h : s.Guarded) (e : Event) : (s.step env e).Guarded := by
  have hvoice : (s.step env e).moved = true →
      (step env s.orchestrator e).connState.voiceState = (step env s.orchestrator e).state.voiceName := by
    intro hmoved
    rw [voiceState_step]
    split
    · rename_i hsame
      rw [h.voiceState (by simpa [Watched.step, hsame] using hmoved), hsame]
    · rfl
  by_cases hs' : (step env s.orchestrator e).state = .streaming
  · have hstarted : (step env s.orchestrator e).streamingTimeout = some ((s.step env e).openedAt + kStreamingTimeoutMs) ∧
        (step env s.orchestrator e).activeStreamId = (s.step env e).openedId := by
      simp only [Watched.step]
      by_cases hopens : OpensStream env s.orchestrator e
      · rw [if_pos hopens, if_pos hopens]
        obtain ⟨first, preRoll, hm⟩ := (opensStream_iff env s.orchestrator e).1 hopens
        exact ⟨by rw [streamingTimeout_step, hm]; rfl, rfl⟩
      · rw [if_neg hopens, if_neg hopens]
        have hs : s.orchestrator.state = .streaming := not_not.1 fun hs => hopens ⟨hs, hs'⟩
        obtain ⟨htimer, hid⟩ := streaming_kept env hs hs'
        rw [htimer, hid]
        exact h.started hs
    refine ⟨⟨fun _ => hs', fun _ => ?_⟩, fun _ => hstarted, hvoice⟩
    rw [Watched.step, hstarted.1]
    rfl
  · have htimer := timer_stopped env h.armed hs'
    refine ⟨⟨fun harmed => ?_, fun hs => absurd hs hs'⟩, fun hs => absurd hs hs', hvoice⟩
    rw [Watched.step, htimer] at harmed
    cases harmed

/-- What the timer closes is the stream that armed it. -/
theorem timeoutEndsOwn_of_guarded (env : Env) {s : Watched} (h : s.Guarded) : s.TimeoutEndsOwn env := by
  have hdue (hs : s.orchestrator.state = .streaming) :
      due s.orchestrator.streamingTimeout s.orchestrator.now = true ↔
        s.openedAt + kStreamingTimeoutMs ≤ s.orchestrator.now := by
    rw [(h.started hs).1]
    simp [due]
  rw [Watched.TimeoutEndsOwn, handed_eq, (step_spec env s.orchestrator .streamingTimeout).state, move]
  by_cases hs : s.orchestrator.state = .streaming
  · by_cases hover : s.openedAt + kStreamingTimeoutMs ≤ s.orchestrator.now
    · have hpast : s.Overdue := ⟨hs, hover⟩
      rw [if_pos ⟨(hdue hs).2 hover, hs⟩, if_pos hpast, if_pos hpast, Move.frames, (h.started hs).2]
      exact ⟨rfl, rfl⟩
    · have hnot : ¬s.Overdue := fun hc => hover hc.2
      rw [if_neg (fun hc => hover ((hdue hs).1 hc.1)), if_neg hnot, if_neg hnot]
      exact ⟨rfl, rfl⟩
  · have hnot : ¬s.Overdue := fun hc => hs hc.1
    rw [if_neg (fun hc => hs hc.2), if_neg hnot, if_neg hnot]
    exact ⟨rfl, rfl⟩

/-- Every event that does not miss its time keeps the stream within the cap. -/
theorem withinCap_step (env : Env) {s : Watched} (h : s.Guarded) (hcap : s.WithinCap) {e : Event} (he : s.onTime e = true) :
    (s.step env e).WithinCap := by
  intro hs'
  simp only [Watched.step] at hs' ⊢
  rw [now_step]
  by_cases hopens : OpensStream env s.orchestrator e
  · rw [if_pos hopens]
    obtain ⟨first, preRoll, hm⟩ := (opensStream_iff env s.orchestrator e).1 hopens
    rw [(quiet_of_move env (by simp [hm] : move env s.orchestrator e ≠ .stay)).2]
    exact Nat.le_add_right _ _
  · rw [if_neg hopens]
    have hs : s.orchestrator.state = .streaming := not_not.1 fun hs => hopens ⟨hs, hs'⟩
    cases e with
    | timePasses ms =>
      rw [Watched.onTime, (h.started hs).1] at he
      exact of_decide_eq_true he
    | _ => exact hcap hs

/-- In every run from the construction of the orchestrator on: the streaming timer is armed exactly while Streaming and
runs from the opening of the stream; a timeout closes the stream that armed it, once its 30 s have passed, and nothing
else; the voice state names the state once that has changed; and when the event loop is not late no stream outlives its 30
s. -/
theorem streams_watched (env : Env) (vad : SileroVad) (wsClient : PairionWebSocketClient) (connState : ConnectionState)
    (es : List Event) :
    Always (Watched.step env) (fun s => s.Guarded ∧ s.TimeoutEndsOwn env) ⟨create vad wsClient connState, "", 0, false⟩ es ∧
      (EveryStep (Watched.step env) (fun s e => s.onTime e = true) ⟨create vad wsClient connState, "", 0, false⟩ es →
        Always (Watched.step env) Watched.WithinCap ⟨create vad wsClient connState, "", 0, false⟩ es) := by
  have hstart : Watched.Guarded ⟨create vad wsClient connState, "", 0, false⟩ := ⟨by simp [create], nofun, nofun⟩
  constructor
  · intro pre _
    have hguarded := inv_run_of_step Watched.Guarded (fun _ e h => guarded_step env h e) pre hstart
    exact ⟨hguarded, timeoutEndsOwn_of_guarded env hguarded⟩
  · have hcap : Watched.WithinCap ⟨create vad wsClient connState, "", 0, false⟩ := fun hs => by cases hs
    refine Always.of_inv (fun s : Watched => s.Guarded ∧ s.WithinCap) (fun _ h => h.2) ?_ ⟨hstart, hcap⟩
    exact fun s e h he => ⟨guarded_step env h.1 e, withinCap_step env h.1 h.2 he⟩

/-- A wake word that nothing follows: the stream is closed when its 30 s have passed, and another wake word opens the
next. -/
theorem streams_watched_two_wakes :
    Always (Watched.step .silence) Watched.WithinCap ⟨create {} { socket := .connected } {}, "", 0, false⟩
      [.startListening, .wakeWordDetected 1 [], .timePasses 30000, .streamingTimeout, .wakeWordDetected 1 [],
        .timePasses 30000] :=
  (streams_watched .silence {} { socket := .connected } {} _).2
    ⟨rfl, rfl, by decide, rfl, rfl, by decide, trivial⟩

end AudioSessionOrchestrator

end PairionClient
