import PairionClient.Pipeline.Orchestrator

/-!
# What each slot of the orchestrator does

One equation per slot and branch, with every member the branch changes. Proofs about runs of the orchestrator cite these and
do not unfold the slots.
-/

namespace PairionClient

namespace AudioSessionOrchestrator

open PairionWebSocketClient

/-- The binary frames of the PCM frames sent under a stream id: one for each that is encoded. -/
def packetFrames (streamId : String) (signals : List EncoderSignal) : List WireFrame :=
  (signals.filterMap EncoderSignal.packet).map fun packet => .binary (BinaryCodec.encodeBinaryFrame streamId packet)

theorem packetFrames_append (streamId : String) (signals signals' : List EncoderSignal) :
    packetFrames streamId (signals ++ signals') = packetFrames streamId signals ++ packetFrames streamId signals' := by
  simp [packetFrames]

/-- The binary frames of a pre-roll buffer. -/
def preRollFrames (env : Env) (streamId : String) (enc : PairionOpusEncoder) (preRoll : Bytes) : List WireFrame :=
  packetFrames streamId (enc.encodeFrames env (Blocks.cut kPcmFrameBytes preRoll).1).2

/-- A pre-roll frame goes through the encoder of its own, and what it gives is sent. -/
theorem sendPreRollFrame_eq (env : Env) (o : AudioSessionOrchestrator) (frame : Bytes) :
    o.sendPreRollFrame env frame =
      { o with
        preRollEncoder := (o.preRollEncoder.encodePcmFrame env frame).1
        wsClient := o.wsClient.puts (packetFrames o.activeStreamId [(o.preRollEncoder.encodePcmFrame env frame).2]) } := by
  unfold sendPreRollFrame
  split <;> rename_i h <;> simp [h, packetFrames, List.filterMap_cons, EncoderSignal.packet, sendBinaryFrame_eq_puts]

theorem foldl_sendPreRollFrame (env : Env) (frames : List Bytes) (o : AudioSessionOrchestrator) :
    frames.foldl (sendPreRollFrame env) o =
      { o with
        preRollEncoder := (o.preRollEncoder.encodeFrames env frames).1
        wsClient := o.wsClient.puts (packetFrames o.activeStreamId (o.preRollEncoder.encodeFrames env frames).2) } := by
  induction frames generalizing o with
  | nil => simp [PairionOpusEncoder.encodeFrames, packetFrames]
  | cons frame frames ih =>
    rw [List.foldl_cons, ih, sendPreRollFrame_eq]
    simp only [puts_puts, ← packetFrames_append, PairionOpusEncoder.encodeFrames, List.cons_append, List.nil_append]

/-- Sending the pre-roll buffer sends its frames and touches nothing else but the pre-roll encoder. -/
theorem sendPreRoll_eq (env : Env) (preRoll : Bytes) (o : AudioSessionOrchestrator) :
    o.sendPreRoll env preRoll =
      { o with
        preRollEncoder := (o.preRollEncoder.encodeFrames env (Blocks.cut kPcmFrameBytes preRoll).1).1
        wsClient := o.wsClient.puts (preRollFrames env o.activeStreamId o.preRollEncoder preRoll) } :=
  foldl_sendPreRollFrame env _ o

/-! ## The slots -/

/-- The frames that announce a new upload stream: what comes before `AudioStreamStart`, that message, and the pre-roll. -/
def openingFrames (env : Env) (first : OutboundMessage) (preRoll : Bytes) (o : AudioSessionOrchestrator) : List WireFrame :=
  [.text first, .text (.audioStreamStartIn (env.createUuid o.uuids))] ++
    preRollFrames env (env.createUuid o.uuids) o.preRollEncoder preRoll

/-- The wake word opens a stream: the VAD is reset, the timeout armed, and the start message and the pre-roll go out. -/
theorem onWakeWordDetected_eq (env : Env) (score : ℚ) (preRoll : Bytes) {o : AudioSessionOrchestrator}
    (hs : o.state = .awaitingWake) (hc : o.wsClient.isConnected = true) :
    o.onWakeWordDetected env score preRoll =
      { o with
        state := .streaming
        activeStreamId := env.createUuid o.uuids
        uuids := o.uuids + 1
        preRollEncoder := (o.preRollEncoder.encodeFrames env (Blocks.cut kPcmFrameBytes preRoll).1).1
        wsClient := o.wsClient.puts
          (openingFrames env (.wakeWordDetected (env.isoDateWithMs o.now) (some score)) preRoll o)
        connState := o.connState.setVoiceState "streaming"
        streamingTimeout := some (o.now + kStreamingTimeoutMs)
        vad := o.vad.reset
        emitted := o.emitted ++ [.wakeFired (env.createUuid o.uuids)] } := by
  simp [onWakeWordDetected, hs, hc, drawStreamId, sendMessage, sendPreRoll_eq, beginStreaming, transitionTo, emit,
    sendMessage_eq_puts, puts_puts, openingFrames, PipelineState.voiceName]

/-- A wake word that is not acted on. -/
theorem onWakeWordDetected_ignored (env : Env) (score : ℚ) (preRoll : Bytes) {o : AudioSessionOrchestrator}
    (h : o.state ≠ .awaitingWake ∨ o.wsClient.isConnected = false) : o.onWakeWordDetected env score preRoll = o := by
  unfold onWakeWordDetected
  split
  · rfl
  · rename_i hs
    rcases h with h | h
    · exact absurd h hs
    · rw [if_pos h]

/-- The messages that close a stream. -/
def closingFrames (streamId reason : String) : List WireFrame :=
  [.text (.speechEnded streamId), .text (.audioStreamEnd streamId reason)]

/-- Closing a stream stops the timeout, forgets the id, and sends the two closing messages. -/
theorem closeStream_eq (reason : String) (o : AudioSessionOrchestrator) :
    o.closeStream reason =
      { o with
        streamingTimeout := none
        activeStreamId := ""
        wsClient := o.wsClient.puts (closingFrames o.activeStreamId reason) } := by
  simp [closeStream, sendMessage, sendMessage_eq_puts, puts_puts, closingFrames]

/-- The end of a stream closes it and awaits the wake word. -/
theorem endStream_eq (reason : String) {o : AudioSessionOrchestrator} (hs : o.state = .streaming) :
    o.endStream reason =
      { o with
        state := .awaitingWake
        streamingTimeout := none
        activeStreamId := ""
        wsClient := o.wsClient.puts (closingFrames o.activeStreamId reason)
        connState := o.connState.setVoiceState "awaiting_wake"
        emitted := o.emitted ++ [.streamEnded o.activeStreamId] } := by
  simp [endStream, closeStream_eq, transitionTo, startListening, hs, emit, PipelineState.voiceName,
    ConnectionState.setVoiceState]

/-- From idle, listening begins by awaiting the wake word. -/
theorem startListening_eq {o : AudioSessionOrchestrator} (hs : o.state = .idle) :
    o.startListening = { o with state := .awaitingWake, connState := o.connState.setVoiceState "awaiting_wake" } := by
  simp [startListening, hs, transitionTo, PipelineState.voiceName]

/-- Elsewhere `startListening` does nothing. -/
theorem startListening_of_ne {o : AudioSessionOrchestrator} (hs : o.state ≠ .idle) : o.startListening = o := if_pos hs

/-- A reply that starts during a stream closes it, and raises the threshold of the VAD for the time of the reply. -/
theorem onTtsPlaybackStarted_streaming {o : AudioSessionOrchestrator} (hs : o.state = .streaming) :
    o.onTtsPlaybackStarted =
      { o with
        state := .playingBack
        streamingTimeout := none
        activeStreamId := ""
        wsClient := o.wsClient.puts (closingFrames o.activeStreamId "normal")
        connState := o.connState.setVoiceState "playing_back"
        emitted := o.emitted ++ [.streamEnded o.activeStreamId]
        normalVadThreshold := o.vad.threshold
        vad := o.vad.reset.setThreshold kBargeInVadThreshold } := by
  simp [onTtsPlaybackStarted, hs, closeStream_eq, transitionTo, emit, raiseVadThreshold, PipelineState.voiceName]

/-- A reply that starts while the wake word is awaited raises the threshold as well. -/
theorem onTtsPlaybackStarted_awaitingWake {o : AudioSessionOrchestrator} (hs : o.state = .awaitingWake) :
    o.onTtsPlaybackStarted =
      { o with
        state := .playingBack
        connState := o.connState.setVoiceState "playing_back"
        normalVadThreshold := o.vad.threshold
        vad := o.vad.reset.setThreshold kBargeInVadThreshold } := by
  simp [onTtsPlaybackStarted, hs, transitionTo, raiseVadThreshold, PipelineState.voiceName]

/-- A further start during a reply stops the barge-in timer, and keeps the raised threshold as the one to go back to. -/
theorem onTtsPlaybackStarted_playingBack {o : AudioSessionOrchestrator} (hs : o.state = .playingBack) :
    o.onTtsPlaybackStarted =
      { o with
        bargeInTimer := none
        normalVadThreshold := o.vad.threshold
        vad := o.vad.reset.setThreshold kBargeInVadThreshold } := by
  simp [onTtsPlaybackStarted, hs, raiseVadThreshold]

/-- In any other state the start of a reply is ignored. -/
theorem onTtsPlaybackStarted_ignored {o : AudioSessionOrchestrator} (h1 : o.state ≠ .streaming)
    (h2 : o.state ≠ .awaitingWake) (h3 : o.state ≠ .playingBack) : o.onTtsPlaybackStarted = o := by
  unfold onTtsPlaybackStarted
  split
  · exact absurd ‹_› h1
  · exact absurd ‹_› h2
  · exact absurd ‹_› h3
  · rfl

/-- The end of a reply restores the threshold and awaits the wake word. -/
theorem onTtsPlaybackEnded_eq {o : AudioSessionOrchestrator} (hs : o.state = .playingBack) :
    o.onTtsPlaybackEnded =
      { o with
        state := .awaitingWake
        bargeInTimer := none
        connState := o.connState.setVoiceState "awaiting_wake"
        vad := (o.vad.setThreshold o.normalVadThreshold).reset } := by
  simp [onTtsPlaybackEnded, hs, transitionTo, startListening, PipelineState.voiceName, ConnectionState.setVoiceState]

/-- Outside a reply its end is ignored. -/
theorem onTtsPlaybackEnded_ignored {o : AudioSessionOrchestrator} (hs : o.state ≠ .playingBack) :
    o.onTtsPlaybackEnded = o := if_pos hs

/-- A playback that falls silent ends the reply. -/
theorem onSpeakingStateChanged_idle {o : AudioSessionOrchestrator} (hs : o.state = .playingBack) :
    o.onSpeakingStateChanged "idle" =
      { o with
        state := .awaitingWake
        bargeInTimer := none
        connState := (o.connState.setAgentState "idle").setVoiceState "awaiting_wake"
        vad := (o.vad.setThreshold o.normalVadThreshold).reset } := by
  have hs' : { o with connState := o.connState.setAgentState "idle" }.state = .playingBack := hs
  exact onTtsPlaybackEnded_eq hs'

/-- A barge-in opens a stream whatever playback does when it is stopped; the "idle" it may emit in between only stops the
barge-in timer and sets the agent state. -/
theorem executeBargeIn_eq (env : Env) (preRoll : Bytes) (wasSpeaking : Bool) {o : AudioSessionOrchestrator}
    (hs : o.state = .playingBack) :
    o.executeBargeIn env preRoll wasSpeaking =
      { o with
        state := .streaming
        activeStreamId := env.createUuid o.uuids
        uuids := o.uuids + 1
        preRollEncoder := (o.preRollEncoder.encodeFrames env (Blocks.cut kPcmFrameBytes preRoll).1).1
        wsClient := o.wsClient.puts (openingFrames env (.bargeIn o.inboundStreamId) preRoll o)
        connState := (if wasSpeaking then o.connState.setAgentState "idle" else o.connState).setVoiceState "streaming"
        streamingTimeout := some (o.now + kStreamingTimeoutMs)
        bargeInTimer := if wasSpeaking then none else o.bargeInTimer
        vad := (o.vad.setThreshold o.normalVadThreshold).reset
        emitted := o.emitted ++ [.wakeFired (env.createUuid o.uuids)] } := by
  cases wasSpeaking
  · simp [executeBargeIn, hs, drawStreamId, sendMessage, sendPreRoll_eq, beginStreaming, transitionTo, emit,
      sendMessage_eq_puts, puts_puts, openingFrames, PipelineState.voiceName]
  · simp [executeBargeIn, onSpeakingStateChanged_idle hs, drawStreamId, sendMessage, sendPreRoll_eq, beginStreaming,
      transitionTo, emit, sendMessage_eq_puts, puts_puts, openingFrames, PipelineState.voiceName,
      ConnectionState.setVoiceState]

/-- During a reply the barge-in timer barges in. -/
theorem onBargeInTimerExpired_eq (env : Env) (preRoll : Bytes) (wasSpeaking : Bool) {o : AudioSessionOrchestrator}
    (hs : o.state = .playingBack) :
    o.onBargeInTimerExpired env preRoll wasSpeaking = o.executeBargeIn env preRoll wasSpeaking :=
  if_neg (not_not.2 hs)

/-- Outside a reply the timer is ignored. -/
theorem onBargeInTimerExpired_ignored (env : Env) (preRoll : Bytes) (wasSpeaking : Bool) {o : AudioSessionOrchestrator}
    (hs : o.state ≠ .playingBack) : o.onBargeInTimerExpired env preRoll wasSpeaking = o := if_pos hs

/-! ## The exits to Idle -/

/-- The connection state of an orchestrator that goes to Idle, which it may be in already. -/
def connStateAtIdle (o : AudioSessionOrchestrator) : ConnectionState :=
  if o.state = .idle then o.connState else o.connState.setVoiceState "idle"

@[simp] theorem pipelineHealth_connStateAtIdle (o : AudioSessionOrchestrator) :
    o.connStateAtIdle.pipelineHealth = o.connState.pipelineHealth := by
  unfold connStateAtIdle
  split <;> rfl

/-- Going idle, the store is told. -/
theorem transitionTo_idle (o : AudioSessionOrchestrator) :
    o.transitionTo .idle = { o with state := .idle, connState := o.connStateAtIdle } := by
  by_cases hs : o.state = .idle
  · rw [transitionTo, if_pos hs]
    cases o
    simp_all [connStateAtIdle]
  · simp [transitionTo, connStateAtIdle, hs, PipelineState.voiceName]

/-- A shutdown goes idle and stops the timeout, and keeps the id of the stream. -/
theorem shutdown_eq (o : AudioSessionOrchestrator) :
    o.shutdown = { o with state := .idle, streamingTimeout := none, connState := o.connStateAtIdle } :=
  transitionTo_idle _

/-- A lost connection goes idle, stops the timeout and forgets the stream. -/
theorem onWsDisconnected_eq (o : AudioSessionOrchestrator) :
    o.onWsDisconnected =
      { o with state := .idle, streamingTimeout := none, activeStreamId := "", connState := o.connStateAtIdle } :=
  transitionTo_idle _

/-- An error of the pipeline goes idle, forgets the stream and is emitted. -/
theorem onPipelineError_eq (reason : String) (o : AudioSessionOrchestrator) :
    o.onPipelineError reason =
      { o with
        state := .idle
        streamingTimeout := none
        activeStreamId := ""
        connState := o.connStateAtIdle
        emitted := o.emitted ++ [.pipelineError reason] } := by
  rw [onPipelineError, transitionTo_idle]
  rfl

end AudioSessionOrchestrator

end PairionClient
