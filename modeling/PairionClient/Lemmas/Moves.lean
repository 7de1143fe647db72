import PairionClient.Lemmas.Orchestrator

/-!
# The moves of the orchestrator

The orchestrator as a state machine: a step makes one of eight moves, which the event and the state before it decide
(`move`), after what the event changes in any case (`noted`). `step_eq` says so, slot by slot, and nothing after it looks
into a slot again; `step_spec` collects what a move does to the state, the wire, the active stream id and the VAD thresholds.
-/

namespace PairionClient

namespace AudioSessionOrchestrator

open PairionWebSocketClient

/-- What a step does. -/
inductive Move where
  | stay
  /-- Idle to AwaitingWake. -/
  | listen
  /-- To Streaming, under a new stream id; `first` goes out before `AudioStreamStart`. -/
  | openStream (first : OutboundMessage) (preRoll : Bytes)
  | sendFrame (opusFrame : Bytes)
  /-- From Streaming to PlayingBack when playback has started, to AwaitingWake otherwise. -/
  | endStream (reason : String) (playback : Bool)
  /-- Playback has started outside a stream. -/
  | playBack
  /-- From PlayingBack to AwaitingWake. -/
  | finish
  /-- To Idle. -/
  | park
  deriving DecidableEq, Repr

/-- The move of a step. -/
def move (env : Env) (o : AudioSessionOrchestrator) : Event → Move
  | .startListening | .sessionOpened => if o.state = .idle then .listen else .stay
  | .shutdown | .wsDisconnected | .captureError _ | .encoderError _ => .park
  | .wakeWordDetected score preRoll =>
    if o.state = .awaitingWake ∧ o.wsClient.isConnected = true then
      .openStream (.wakeWordDetected (env.isoDateWithMs o.now) (some score)) preRoll
    else .stay
  | .speechEnded => if o.state = .streaming then .endStream "normal" false else .stay
  | .opusFrameEncoded opusFrame => if o.state = .streaming then .sendFrame opusFrame else .stay
  | .streamingTimeout =>
    if due o.streamingTimeout o.now = true ∧ o.state = .streaming then .endStream "timeout" false else .stay
  | .bargeInTimeout preRoll _ =>
    if due o.bargeInTimer o.now = true ∧ o.state = .playingBack then .openStream (.bargeIn o.inboundStreamId) preRoll
    else .stay
  | .speakingStateChanged state =>
    if state = "speaking" then
      match o.state with
      | .streaming => .endStream "normal" true
      | .awaitingWake | .playingBack => .playBack
      | _ => .stay
    else if state = "idle" ∧ o.state = .playingBack then .finish
    else .stay
  | .speechStarted | .setBargeInTimerIntervalMs _ | .inboundAudioStreamStart _ | .socketStateChanged _ | .timePasses _ =>
    .stay

/-- The state after a move. -/
def Move.target (s : PipelineState) : Move → PipelineState
  | .stay | .sendFrame _ => s
  | .listen | .finish => .awaitingWake
  | .openStream _ _ => .streaming
  | .endStream _ playback => if playback then .playingBack else .awaitingWake
  | .playBack => .playingBack
  | .park => .idle

/-- What a move hands to the socket. -/
def Move.frames (env : Env) (o : AudioSessionOrchestrator) : Move → List WireFrame
  | .openStream first preRoll => openingFrames env first preRoll o
  | .sendFrame opusFrame => [.binary (BinaryCodec.encodeBinaryFrame o.activeStreamId opusFrame)]
  | .endStream reason _ => closingFrames o.activeStreamId reason
  | _ => []

/-- The active stream id while Streaming after a move. -/
def Move.activeStreamId (env : Env) (o : AudioSessionOrchestrator) : Move → String
  | .openStream _ _ => env.createUuid o.uuids
  | _ => o.activeStreamId

/-- The VAD threshold and the normal one after a move. -/
def Move.thresholds (o : AudioSessionOrchestrator) : Move → ℚ × ℚ
  | .openStream (.bargeIn _) _ | .finish => (o.normalVadThreshold, o.normalVadThreshold)
  | .endStream _ true | .playBack => (kBargeInVadThreshold, o.vad.threshold)
  | _ => (o.vad.threshold, o.normalVadThreshold)

/-- The socket after an event. -/
def socketAfter (socket : SocketState) : Event → SocketState
  | .socketStateChanged socket' => socket'
  | _ => socket

/-- The clock after an event. -/
def nowAfter (now : Nat) : Event → Nat
  | .timePasses ms => now + ms
  | _ => now

/-- What an event changes whatever move it leads to: its timer is no longer armed, and what it brings is stored. -/
def noted (o : AudioSessionOrchestrator) : Event → AudioSessionOrchestrator
  | .setBargeInTimerIntervalMs ms => { o with bargeInTimerIntervalMs := ms }
  | .speechStarted =>
    if o.state = .playingBack then { o with bargeInTimer := some (o.now + o.bargeInTimerIntervalMs) } else o
  | .speechEnded => if o.state = .playingBack then { o with bargeInTimer := none } else o
  | .streamingTimeout => if due o.streamingTimeout o.now then { o with streamingTimeout := none } else o
  | .bargeInTimeout _ wasSpeaking =>
    if due o.bargeInTimer o.now then
      { o with
        bargeInTimer := none
        connState :=
          if o.state = .playingBack ∧ wasSpeaking = true then o.connState.setAgentState "idle" else o.connState }
    else o
  | .speakingStateChanged state =>
    { o with
      bargeInTimer := if o.state = .playingBack ∧ (state = "speaking" ∨ state = "idle") then none else o.bargeInTimer
      connState := o.connState.setAgentState state }
  | .inboundAudioStreamStart streamId => { o with inboundStreamId := streamId }
  | .wsDisconnected => { o with activeStreamId := "" }
  | .captureError reason | .encoderError reason =>
    { o with activeStreamId := "", emitted := o.emitted ++ [.pipelineError reason] }
  | .socketStateChanged socket => { o with wsClient := { o.wsClient with socket := socket } }
  | .timePasses ms => { o with now := o.now + ms }
  | _ => o

/-- A move, made by an orchestrator that has noted the event. -/
def Move.run (env : Env) (o : AudioSessionOrchestrator) : Move → AudioSessionOrchestrator
  | .stay => o
  | .listen => { o with state := .awaitingWake, connState := o.connState.setVoiceState "awaiting_wake" }
  | .openStream first preRoll =>
    { o with
      state := .streaming
      activeStreamId := env.createUuid o.uuids
      uuids := o.uuids + 1
      preRollEncoder := (o.preRollEncoder.encodeFrames env (Blocks.cut kPcmFrameBytes preRoll).1).1
      wsClient := o.wsClient.puts (openingFrames env first preRoll o)
      connState := o.connState.setVoiceState "streaming"
      streamingTimeout := some (o.now + kStreamingTimeoutMs)
      vad := match first with
        | .bargeIn _ => (o.vad.setThreshold o.normalVadThreshold).reset
        | _ => o.vad.reset
      emitted := o.emitted ++ [.wakeFired (env.createUuid o.uuids)] }
  | .sendFrame opusFrame =>
    { o with wsClient := o.wsClient.puts [.binary (BinaryCodec.encodeBinaryFrame o.activeStreamId opusFrame)] }
  | .endStream reason playback =>
    { o with
      state := if playback then .playingBack else .awaitingWake
      streamingTimeout := none
      activeStreamId := ""
      wsClient := o.wsClient.puts (closingFrames o.activeStreamId reason)
      connState := o.connState.setVoiceState (if playback then "playing_back" else "awaiting_wake")
      emitted := o.emitted ++ [.streamEnded o.activeStreamId]
      normalVadThreshold := if playback then o.vad.threshold else o.normalVadThreshold
      vad := if playback then o.vad.reset.setThreshold kBargeInVadThreshold else o.vad }
  | .playBack =>
    { o with
      state := .playingBack
      connState := if o.state = .playingBack then o.connState else o.connState.setVoiceState "playing_back"
      normalVadThreshold := o.vad.threshold
      vad := o.vad.reset.setThreshold kBargeInVadThreshold }
  | .finish =>
    { o with
      state := .awaitingWake
      connState := o.connState.setVoiceState "awaiting_wake"
      vad := (o.vad.setThreshold o.normalVadThreshold).reset }
  | .park => { o with state := .idle, streamingTimeout := none, connState := o.connStateAtIdle }

/-! ## A step is a move -/

/-- `startListening` is the move to listen from idle, and no move elsewhere. -/
theorem startListening_move (env : Env) (o : AudioSessionOrchestrator) :
    o.startListening = (if o.state = .idle then Move.listen else Move.stay).run env o := by
  by_cases hs : o.state = .idle
  · rw [startListening_eq hs, if_pos hs]
    rfl
  · rw [startListening_of_ne hs, if_neg hs]
    rfl

/-- The start of a reply is a move, once the barge-in timer of a playback has been stopped. -/
theorem onTtsPlaybackStarted_move (env : Env) (o : AudioSessionOrchestrator) :
    o.onTtsPlaybackStarted =
      Move.run env { o with bargeInTimer := if o.state = .playingBack then none else o.bargeInTimer }
        (match o.state with
          | .streaming => .endStream "normal" true
          | .awaitingWake | .playingBack => .playBack
          | _ => .stay) := by
  cases hs : o.state
  case streaming =>
    rw [onTtsPlaybackStarted_streaming hs]
    rfl
  case awaitingWake =>
    rw [onTtsPlaybackStarted_awaitingWake hs]
    rfl
  case playingBack =>
    rw [onTtsPlaybackStarted_playingBack hs]
    simp [Move.run, hs]
  all_goals
    rw [onTtsPlaybackStarted_ignored (by simp [hs]) (by simp [hs]) (by simp [hs])]
    cases o
    simp_all [Move.run]

/-- The end of a reply is a move, once the barge-in timer of a playback has been stopped. -/
theorem onTtsPlaybackEnded_move (env : Env) (o : AudioSessionOrchestrator) :
    o.onTtsPlaybackEnded =
      Move.run env { o with bargeInTimer := if o.state = .playingBack then none else o.bargeInTimer }
        (if o.state = .playingBack then .finish else .stay) := by
  by_cases hs : o.state = .playingBack
  · rw [onTtsPlaybackEnded_eq hs, if_pos hs, if_pos hs]
    rfl
  · rw [onTtsPlaybackEnded_ignored hs, if_neg hs, if_neg hs]
    rfl

/-- A step notes its event and makes its move. -/
theorem step_eq (env : Env) (o : AudioSessionOrchestrator) (e : Event) :
    step env o e = (move env o e).run env (noted o e) := by
  cases e with
  | startListening => exact startListening_move env o
  | sessionOpened => exact startListening_move env o
  | shutdown =>
    rw [step, shutdown_eq]
    rfl
  | wsDisconnected =>
    rw [step, onWsDisconnected_eq]
    rfl
  | captureError reason =>
    rw [step, onPipelineError_eq]
    rfl
  | encoderError reason =>
    rw [step, onPipelineError_eq]
    rfl
  | wakeWordDetected score preRoll =>
    rw [step, move]
    split
    · rename_i h
      rw [onWakeWordDetected_eq env score preRoll h.1 h.2]
      rfl
    · rename_i h
      rw [onWakeWordDetected_ignored env score preRoll (by simpa only [not_and_or, Bool.not_eq_true] using h)]
      rfl
  | speechEnded =>
    rw [step, move, noted, onSpeechEnded]
    by_cases hs : o.state = .streaming
    · rw [if_pos hs, if_pos hs, if_neg (by simp [hs]), endStream_eq "normal" hs]
      rfl
    · rw [if_neg hs, if_neg hs]
      rfl
  | opusFrameEncoded opusFrame =>
    rw [step, move, onOpusFrameEncoded]
    by_cases h : o.state = .streaming
    · rw [if_neg (not_not.2 h), if_pos h]
      rfl
    · rw [if_pos h, if_neg h]
      rfl
  | streamingTimeout =>
    rw [step, move, noted]
    by_cases hd : due o.streamingTimeout o.now = true
    · rw [if_pos hd, if_pos hd]
      by_cases h : o.state = .streaming
      · have h' : { o with streamingTimeout := none }.state = .streaming := h
        rw [if_pos ⟨hd, h⟩, onStreamingTimeout, if_neg (not_not.2 h'), endStream_eq "timeout" h']
        rfl
      · rw [if_neg (fun hc => h hc.2), onStreamingTimeout, if_pos h]
        rfl
    · rw [if_neg hd, if_neg hd, if_neg (fun hc => hd hc.1)]
      rfl
  | bargeInTimeout preRoll wasSpeaking =>
    rw [step, move, noted]
    by_cases hd : due o.bargeInTimer o.now = true
    · rw [if_pos hd, if_pos hd]
      by_cases h : o.state = .playingBack
      · have h' : { o with bargeInTimer := none }.state = .playingBack := h
        have hm : (if due o.bargeInTimer o.now = true ∧ o.state = .playingBack then
            Move.openStream (.bargeIn o.inboundStreamId) preRoll else Move.stay) =
              .openStream (.bargeIn o.inboundStreamId) preRoll := if_pos ⟨hd, h⟩
        rw [hm, onBargeInTimerExpired_eq env preRoll wasSpeaking h', executeBargeIn_eq env preRoll wasSpeaking h']
        cases wasSpeaking <;> simp [Move.run, h, openingFrames]
      · have h' : { o with bargeInTimer := none }.state ≠ .playingBack := h
        have hm : (if due o.bargeInTimer o.now = true ∧ o.state = .playingBack then
            Move.openStream (.bargeIn o.inboundStreamId) preRoll else Move.stay) = .stay := if_neg fun hc => h hc.2
        rw [hm, onBargeInTimerExpired_ignored env preRoll wasSpeaking h', if_neg (fun hc => h hc.1)]
        rfl
    · rw [if_neg hd, if_neg hd, if_neg (fun hc => hd hc.1)]
      rfl
  | speakingStateChanged state =>
    -- the connection state's slot runs first, and touches nothing that the orchestrator's reads
    have hnoted (h : state = "speaking" ∨ state = "idle") :
        { o with
          bargeInTimer := if o.state = .playingBack then none else o.bargeInTimer
          connState := o.connState.setAgentState state } = noted o (.speakingStateChanged state) := by
      simp [noted, h]
    rw [step, onSpeakingStateChanged, move]
    split
    · rename_i h
      rw [← hnoted (Or.inl h)]
      exact onTtsPlaybackStarted_move env _
    · split
      · rename_i h
        rw [← hnoted (Or.inr h)]
        simp only [h, true_and]
        exact onTtsPlaybackEnded_move env _
      · rename_i hspeaking hidle
        rw [if_neg (fun hc => hidle hc.1), Move.run, noted, if_neg (fun hc => hc.2.elim hspeaking hidle)]
  | speechStarted =>
    rw [step, noted, onVadSpeechStarted]
    by_cases h : o.state = .playingBack
    · rw [if_neg (not_not.2 h), if_pos h]
      rfl
    · rw [if_pos h, if_neg h]
      rfl
  | setBargeInTimerIntervalMs ms => rfl
  | inboundAudioStreamStart streamId => rfl
  | socketStateChanged socket => rfl
  | timePasses ms => rfl

/-! ## What noting an event leaves as it was -/

section Noted

attribute [local simp] noted socketAfter nowAfter

@[simp] theorem state_noted (o : AudioSessionOrchestrator) (e : Event) : (noted o e).state = o.state := by
  cases e <;> simp <;> split <;> rfl

@[simp] theorem vad_noted (o : AudioSessionOrchestrator) (e : Event) : (noted o e).vad = o.vad := by
  cases e <;> simp <;> split <;> rfl

@[simp] theorem normalVadThreshold_noted (o : AudioSessionOrchestrator) (e : Event) :
    (noted o e).normalVadThreshold = o.normalVadThreshold := by
  cases e <;> simp <;> split <;> rfl

@[simp] theorem uuids_noted (o : AudioSessionOrchestrator) (e : Event) : (noted o e).uuids = o.uuids := by
  cases e <;> simp <;> split <;> rfl

@[simp] theorem preRollEncoder_noted (o : AudioSessionOrchestrator) (e : Event) :
    (noted o e).preRollEncoder = o.preRollEncoder := by
  cases e <;> simp <;> split <;> rfl

/-- Taking note of an event changes the socket at most, and sends nothing. -/
theorem wsClient_noted (o : AudioSessionOrchestrator) (e : Event) :
    (noted o e).wsClient = { o.wsClient with socket := socketAfter o.wsClient.socket e } := by
  cases e <;> simp <;> split <;> rfl

/-- Taking note of an event lets its time pass. -/
theorem now_noted (o : AudioSessionOrchestrator) (e : Event) : (noted o e).now = nowAfter o.now e := by
  cases e <;> simp <;> split <;> rfl

/-- An event that leads to a move is about neither the socket nor the clock. -/
theorem quiet_of_move (env : Env) {o : AudioSessionOrchestrator} {e : Event} (h : move env o e ≠ .stay) :
    socketAfter o.wsClient.socket e = o.wsClient.socket ∧ nowAfter o.now e = o.now := by
  cases e with
  | socketStateChanged socket => exact absurd rfl h
  | timePasses ms => exact absurd rfl h
  | _ => exact ⟨rfl, rfl⟩

/-- Taking note of an event leaves the id of the stream, unless the event parks the session. -/
theorem activeStreamId_noted (env : Env) {o : AudioSessionOrchestrator} {e : Event} (h : move env o e ≠ .park) :
    (noted o e).activeStreamId = o.activeStreamId := by
  cases e with
  | wsDisconnected => exact absurd rfl h
  | captureError reason => exact absurd rfl h
  | encoderError reason => exact absurd rfl h
  | _ => simp <;> split <;> rfl

end Noted

@[simp] theorem openingFrames_noted (env : Env) (first : OutboundMessage) (preRoll : Bytes) (o : AudioSessionOrchestrator)
    (e : Event) : openingFrames env first preRoll (noted o e) = openingFrames env first preRoll o := by
  simp [openingFrames]

/-! ## What a step leaves -/

/-- What a step leaves, as its move says. -/
structure StepSpec (env : Env) (o o' : AudioSessionOrchestrator) (e : Event) (m : Move) : Prop where
  state : o'.state = m.target o.state
  socket : o'.wsClient.socket = socketAfter o.wsClient.socket e
  sent : o'.wsClient.sent = (o.wsClient.puts (m.frames env o)).sent
  activeStreamId : o'.state = .streaming → o'.activeStreamId = m.activeStreamId env o
  thresholds : (o'.vad.threshold, o'.normalVadThreshold) = m.thresholds o

/-- A move ends in its target. -/
theorem state_run (env : Env) (o : AudioSessionOrchestrator) (m : Move) : (m.run env o).state = m.target o.state := by
  cases m <;> rfl

/-- No move touches the socket. -/
theorem socket_run (env : Env) (o : AudioSessionOrchestrator) (m : Move) :
    (m.run env o).wsClient.socket = o.wsClient.socket := by
  cases m <;> simp [Move.run]

/-- A move sends its frames, if the socket is connected. -/
theorem sent_run (env : Env) (o : AudioSessionOrchestrator) (m : Move) :
    (m.run env o).wsClient.sent = (o.wsClient.puts (m.frames env o)).sent := by
  cases m <;> simp [Move.run, Move.frames]

/-- Where a move ends in Streaming, the id of the stream is the one that the move says. -/
theorem activeStreamId_run (env : Env) (o : AudioSessionOrchestrator) (m : Move) (h : (m.run env o).state = .streaming) :
    (m.run env o).activeStreamId = m.activeStreamId env o := by
  cases m with
  | endStream reason playback => cases playback <;> cases h
  | _ => rfl

/-- What a move makes of the threshold of the VAD and of the one kept for after the reply. -/
theorem thresholds_run (env : Env) (o : AudioSessionOrchestrator) (m : Move) :
    ((m.run env o).vad.threshold, (m.run env o).normalVadThreshold) = m.thresholds o := by
  cases m with
  | openStream first preRoll => cases first <;> rfl
  | endStream reason playback => cases playback <;> rfl
  | _ => rfl

/-- A step is described by its event and its move. -/
theorem step_spec (env : Env) (o : AudioSessionOrchestrator) (e : Event) :
    StepSpec env o (step env o e) e (move env o e) := by
  rw [step_eq]
  refine ⟨?_, ?_, ?_, ?_, ?_⟩
  · rw [state_run, state_noted]
  · rw [socket_run, wsClient_noted]
  · rw [sent_run]
    cases hm : move env o e with
    | stay => simp [Move.frames, wsClient_noted]
    | _ =>
      have hsocket := (quiet_of_move env (by simp [hm] : move env o e ≠ .stay)).1
      have hclient : (noted o e).wsClient = o.wsClient := by rw [wsClient_noted, hsocket]
      rw [hclient]
      first
        | rfl
        | rw [Move.frames, Move.frames, activeStreamId_noted env (by simp [hm])]
        | rw [Move.frames, Move.frames, openingFrames_noted]
  · intro h
    rw [activeStreamId_run env _ _ h]
    cases hm : move env o e with
    | park =>
      rw [hm] at h
      cases h
    | openStream first preRoll => rw [Move.activeStreamId, Move.activeStreamId, uuids_noted]
    | _ => exact activeStreamId_noted env (by simp [hm])
  · rw [thresholds_run]
    simp only [Move.thresholds, vad_noted, normalVadThreshold_noted]

/-- The state a move is made from. A stream is opened by a wake word from AwaitingWake and by a barge-in from PlayingBack.
-/
def Move.Source (s : PipelineState) : Move → Prop
  | .stay | .park => True
  | .listen => s = .idle
  | .openStream (.wakeWordDetected _ _) _ => s = .awaitingWake
  | .openStream (.bargeIn _) _ => s = .playingBack
  | .openStream _ _ => False
  | .sendFrame _ | .endStream _ _ => s = .streaming
  | .playBack => s = .awaitingWake ∨ s = .playingBack
  | .finish => s = .playingBack

/-- The move of an event is one that its state allows. -/
theorem move_source (env : Env) (o : AudioSessionOrchestrator) (e : Event) : (move env o e).Source o.state := by
  cases e <;> simp only [move] <;> repeat' split
  all_goals simp_all [Move.Source]

/-! ## Streaming -/

/-- A step that does not leave Streaming sends the packet it is about, if any, and makes no other move. -/
theorem move_streaming (env : Env) {o : AudioSessionOrchestrator} (hs : o.state = .streaming) {e : Event}
    (hs' : (step env o e).state = .streaming) :
    (∃ opusFrame, e = .opusFrameEncoded opusFrame ∧ move env o e = .sendFrame opusFrame) ∨
      ((∀ opusFrame, e ≠ .opusFrameEncoded opusFrame) ∧ move env o e = .stay) := by
  rw [(step_spec env o e).state] at hs'
  cases e <;> simp only [move, hs] at hs' ⊢ <;> revert hs' <;> repeat' split
  all_goals simp_all [Move.target]

/-! ## Idle -/

/-- An event whose slot goes to Idle, in every state. -/
def Event.parks : Event → Bool
  | .shutdown | .wsDisconnected | .captureError _ | .encoderError _ => true
  | _ => false

/-- An event whose slot starts listening from Idle. -/
def Event.resumes : Event → Bool
  | .startListening | .sessionOpened => true
  | _ => false

/-- Only the events that park the session make it park, and they do so in every state. -/
theorem move_eq_park_iff (env : Env) (o : AudioSessionOrchestrator) (e : Event) :
    move env o e = .park ↔ e.parks = true := by
  cases e <;> simp only [move, Event.parks] <;> repeat' split
  all_goals simp

/-- A move ends idle if it parks, or does not leave an idle state. -/
theorem target_eq_idle_iff (s : PipelineState) (m : Move) :
    m.target s = .idle ↔ m = .park ∨ (s = .idle ∧ (m = .stay ∨ ∃ opusFrame, m = .sendFrame opusFrame)) := by
  cases m with
  | endStream reason playback => cases playback <;> simp [Move.target]
  | _ => simp [Move.target]

/-- From Idle a step only listens, parks or stays. -/
theorem move_of_idle (env : Env) {o : AudioSessionOrchestrator} (hs : o.state = .idle) (e : Event) :
    move env o e = if e.parks then .park else if e.resumes then .listen else .stay := by
  cases e <;> simp [move, hs, Event.parks, Event.resumes]

/-- The orchestrator is in Idle exactly when it was parked and nothing has made it listen since. -/
theorem state_idle_step (env : Env) (o : AudioSessionOrchestrator) (e : Event) :
    (step env o e).state = .idle ↔ e.parks = true ∨ (o.state = .idle ∧ e.resumes = false) := by
  rw [(step_spec env o e).state, target_eq_idle_iff, move_eq_park_iff]
  by_cases hs : o.state = .idle
  · rw [move_of_idle env hs]
    cases e.parks <;> cases e.resumes <;> simp [hs]
  · simp [hs]

end AudioSessionOrchestrator

end PairionClient
