import PairionClient.Audio.Opus
import PairionClient.Lib.Blocks
import PairionClient.Lib.Run
import PairionClient.Protocol.BinaryCodec
import PairionClient.State.ConnectionState
import PairionClient.Vad.SileroVad
import PairionClient.Ws.WebSocketClient

/-!
# The audio session orchestrator

`pipeline/audio_session_orchestrator.cpp`, slot by slot. The record holds the orchestrator's own members and the objects
its slots act on: the VAD, the WebSocket client, the connection state and the pre-roll encoder. Two of its collaborators
are left open. Playback is seen through the signals it emits: `speakingStateChanged` is an event, and whether
`m_playback->stop()` emits "idle" in the middle of a barge-in is an argument (`wasSpeaking`). The wake detector is seen
through the pre-roll buffer it hands over. So the events of `step` cover every behaviour of both. A single-shot timer is
the instant it expires at, while it is active; it fires only then.
-/

namespace PairionClient

/-- Pipeline states. -/
inductive PipelineState where
  | idle | awaitingWake | streaming | endingSpeech | playingBack
  deriving DecidableEq, Repr

/-- The name of a state in `voiceState`. -/
def PipelineState.voiceName : PipelineState → String
  | .idle => "idle"
  | .awaitingWake => "awaiting_wake"
  | .streaming => "streaming"
  | .endingSpeech => "ending_speech"
  | .playingBack => "playing_back"

/-- What the orchestrator emits. -/
inductive OrchestratorSignal where
  | wakeFired (streamId : String)
  | streamEnded (streamId : String)
  | pipelineError (message : String)
  deriving DecidableEq, Repr

structure AudioSessionOrchestrator where
  state : PipelineState := .idle
  activeStreamId : String := ""
  inboundStreamId : String := ""
  streamingTimeout : Option Nat := none
  bargeInTimer : Option Nat := none
  bargeInTimerIntervalMs : Nat := kBargeInMinDurationMs
  normalVadThreshold : ℚ
  preRollEncoder : PairionOpusEncoder := {}
  vad : SileroVad
  wsClient : PairionWebSocketClient := {}
  connState : ConnectionState := {}
  emitted : List OrchestratorSignal := []
  /-- The clock, and the number of UUIDs drawn so far. -/
  now : Nat := 0
  uuids : Nat := 0
  deriving DecidableEq, Repr

namespace AudioSessionOrchestrator

/-- The constructor: the normal threshold is the VAD's. -/
def create (vad : SileroVad) (wsClient : PairionWebSocketClient) (connState : ConnectionState) :
    AudioSessionOrchestrator :=
  { normalVadThreshold := vad.threshold, vad := vad, wsClient := wsClient, connState := connState }

/-! ## What the slots are made of -/

def transitionTo (newState : PipelineState) (o : AudioSessionOrchestrator) : AudioSessionOrchestrator :=
  if o.state = newState then o
  else { o with state := newState, connState := o.connState.setVoiceState newState.voiceName }

def sendMessage (msg : OutboundMessage) (o : AudioSessionOrchestrator) : AudioSessionOrchestrator :=
  { o with wsClient := o.wsClient.sendMessage msg }

def emit (s : OrchestratorSignal) (o : AudioSessionOrchestrator) : AudioSessionOrchestrator :=
  { o with emitted := o.emitted ++ [s] }

/-- `m_activeStreamId` becomes a new UUID. -/
def drawStreamId (env : Env) (o : AudioSessionOrchestrator) : AudioSessionOrchestrator :=
  { o with activeStreamId := env.createUuid o.uuids, uuids := o.uuids + 1 }

/-- Encode one pre-roll frame and send the packet under the active stream id. An encoding error is not connected to
anything. -/
def sendPreRollFrame (env : Env) (o : AudioSessionOrchestrator) (frame : Bytes) : AudioSessionOrchestrator :=
  match o.preRollEncoder.encodePcmFrame env frame with
  | (enc, .opusFrameEncoded encoded) =>
    { o with
      preRollEncoder := enc
      wsClient := o.wsClient.sendBinaryFrame (BinaryCodec.encodeBinaryFrame o.activeStreamId encoded) }
  | (enc, .encoderError _) => { o with preRollEncoder := enc }

/-- Send the whole frames of the pre-roll buffer, in order. -/
def sendPreRoll (env : Env) (preRoll : Bytes) (o : AudioSessionOrchestrator) : AudioSessionOrchestrator :=
  (Blocks.cut kPcmFrameBytes preRoll).1.foldl (sendPreRollFrame env) o

/-- The messages that close the active upload stream, and its id forgotten. -/
def closeStream (reason : String) (o : AudioSessionOrchestrator) : AudioSessionOrchestrator :=
  let o := { o with streamingTimeout := none }
  let o := o.sendMessage (.speechEnded o.activeStreamId)
  let o := o.sendMessage (.audioStreamEnd o.activeStreamId reason)
  { o with activeStreamId := "" }

/-! ## The slots -/

def startListening (o : AudioSessionOrchestrator) : AudioSessionOrchestrator :=
  if o.state ≠ .idle then o else o.transitionTo .awaitingWake

def shutdown (o : AudioSessionOrchestrator) : AudioSessionOrchestrator :=
  { o with streamingTimeout := none }.transitionTo .idle

/-- Streaming begins: the state, its timeout, a fresh VAD and the signal. -/
def beginStreaming (o : AudioSessionOrchestrator) : AudioSessionOrchestrator :=
  let o := { o.transitionTo .streaming with streamingTimeout := some (o.now + kStreamingTimeoutMs), vad := o.vad.reset }
  o.emit (.wakeFired o.activeStreamId)

def onWakeWordDetected (env : Env) (score : ℚ) (preRollBuffer : Bytes) (o : AudioSessionOrchestrator) :
    AudioSessionOrchestrator :=
  if o.state ≠ .awaitingWake then o
  else if o.wsClient.isConnected = false then o
  else
    let o := o.drawStreamId env
    let o := o.sendMessage (.wakeWordDetected (env.isoDateWithMs o.now) (some score))
    let o := o.sendMessage (.audioStreamStartIn o.activeStreamId)
    let o := o.sendPreRoll env preRollBuffer
    o.beginStreaming

def onVadSpeechStarted (o : AudioSessionOrchestrator) : AudioSessionOrchestrator :=
  if o.state ≠ .playingBack then o else { o with bargeInTimer := some (o.now + o.bargeInTimerIntervalMs) }

/-- Close the stream and go back to listening. -/
def endStream (reason : String) (o : AudioSessionOrchestrator) : AudioSessionOrchestrator :=
  ((o.closeStream reason).transitionTo .idle).startListening.emit (.streamEnded o.activeStreamId)

def onSpeechEnded (o : AudioSessionOrchestrator) : AudioSessionOrchestrator :=
  if o.state = .streaming then o.endStream "normal"
  else if o.state = .playingBack then { o with bargeInTimer := none }
  else o

def onOpusFrameEncoded (opusFrame : Bytes) (o : AudioSessionOrchestrator) : AudioSessionOrchestrator :=
  if o.state ≠ .streaming then o
  else { o with wsClient := o.wsClient.sendBinaryFrame (BinaryCodec.encodeBinaryFrame o.activeStreamId opusFrame) }

def onStreamingTimeout (o : AudioSessionOrchestrator) : AudioSessionOrchestrator :=
  if o.state ≠ .streaming then o else o.endStream "timeout"

/-- The last lines of `onTtsPlaybackStarted`: save the threshold, reset the VAD, raise the threshold. -/
def raiseVadThreshold (o : AudioSessionOrchestrator) : AudioSessionOrchestrator :=
  { o with
    normalVadThreshold := o.vad.threshold
    vad := o.vad.reset.setThreshold kBargeInVadThreshold }

def onTtsPlaybackStarted (o : AudioSessionOrchestrator) : AudioSessionOrchestrator :=
  match o.state with
  | .streaming =>
    (((o.closeStream "normal").transitionTo .playingBack).emit (.streamEnded o.activeStreamId)).raiseVadThreshold
  | .awaitingWake => (o.transitionTo .playingBack).raiseVadThreshold
  | .playingBack => { o with bargeInTimer := none }.raiseVadThreshold
  | _ => o

def onTtsPlaybackEnded (o : AudioSessionOrchestrator) : AudioSessionOrchestrator :=
  if o.state ≠ .playingBack then o
  else
    let o := { o with bargeInTimer := none, vad := (o.vad.setThreshold o.normalVadThreshold).reset }
    (o.transitionTo .idle).startListening

/-- What a change of the speaking state runs: the connection state's slot, then the orchestrator's. -/
def onSpeakingStateChanged (state : String) (o : AudioSessionOrchestrator) : AudioSessionOrchestrator :=
  let o := { o with connState := o.connState.setAgentState state }
  if state = "speaking" then o.onTtsPlaybackStarted
  else if state = "idle" then o.onTtsPlaybackEnded
  else o

/-- `executeBargeIn`. Stopping playback emits "idle" when it was speaking, and that runs `onTtsPlaybackEnded` before the
rest. -/
def executeBargeIn (env : Env) (preRoll : Bytes) (wasSpeaking : Bool) (o : AudioSessionOrchestrator) :
    AudioSessionOrchestrator :=
  let o := if wasSpeaking then o.onSpeakingStateChanged "idle" else o
  let o := { o with vad := o.vad.setThreshold o.normalVadThreshold }
  let o := o.sendMessage (.bargeIn o.inboundStreamId)
  let o := o.drawStreamId env
  let o := o.sendMessage (.audioStreamStartIn o.activeStreamId)
  let o := o.sendPreRoll env preRoll
  o.beginStreaming

def onBargeInTimerExpired (env : Env) (preRoll : Bytes) (wasSpeaking : Bool) (o : AudioSessionOrchestrator) :
    AudioSessionOrchestrator :=
  if o.state ≠ .playingBack then o else o.executeBargeIn env preRoll wasSpeaking

/-- The part of `onInboundAudioStreamStart` before playback is prepared. -/
def onInboundAudioStreamStart (streamId : String) (o : AudioSessionOrchestrator) : AudioSessionOrchestrator :=
  { o with inboundStreamId := streamId }

def onWsDisconnected (o : AudioSessionOrchestrator) : AudioSessionOrchestrator :=
  { o with streamingTimeout := none, activeStreamId := "" }.transitionTo .idle

def onWsReconnected (o : AudioSessionOrchestrator) : AudioSessionOrchestrator := o.startListening

def onPipelineError (reason : String) (o : AudioSessionOrchestrator) : AudioSessionOrchestrator :=
  ({ o with streamingTimeout := none, activeStreamId := "" }.transitionTo .idle).emit (.pipelineError reason)

/-! ## Events -/

/-- What can reach the orchestrator on the main thread. `bargeInTimeout` carries the wake detector's pre-roll buffer and
whether playback is speaking at that moment. -/
inductive Event where
  | startListening
  | shutdown
  | setBargeInTimerIntervalMs (ms : Nat)
  | wakeWordDetected (score : ℚ) (preRollBuffer : Bytes)
  | speechStarted
  | speechEnded
  | opusFrameEncoded (opusFrame : Bytes)
  | streamingTimeout
  | bargeInTimeout (preRoll : Bytes) (wasSpeaking : Bool)
  | speakingStateChanged (state : String)
  | inboundAudioStreamStart (streamId : String)
  | wsDisconnected
  | sessionOpened
  | captureError (reason : String)
  | encoderError (reason : String)
  | socketStateChanged (socket : SocketState)
  | timePasses (ms : Nat)
  deriving DecidableEq, Repr

/-- A single-shot timer is active and its time has come. -/
def due (timer : Option Nat) (now : Nat) : Bool := timer.any (· ≤ now)

def step (env : Env) (o : AudioSessionOrchestrator) : Event → AudioSessionOrchestrator
  | .startListening => o.startListening
  | .shutdown => o.shutdown
  | .setBargeInTimerIntervalMs ms => { o with bargeInTimerIntervalMs := ms }
  | .wakeWordDetected score preRollBuffer => o.onWakeWordDetected env score preRollBuffer
  | .speechStarted => o.onVadSpeechStarted
  | .speechEnded => o.onSpeechEnded
  | .opusFrameEncoded opusFrame => o.onOpusFrameEncoded opusFrame
  | .streamingTimeout =>
    if due o.streamingTimeout o.now then { o with streamingTimeout := none }.onStreamingTimeout else o
  | .bargeInTimeout preRoll wasSpeaking =>
    if due o.bargeInTimer o.now then { o with bargeInTimer := none }.onBargeInTimerExpired env preRoll wasSpeaking
    else o
  | .speakingStateChanged state => o.onSpeakingStateChanged state
  | .inboundAudioStreamStart streamId => o.onInboundAudioStreamStart streamId
  | .wsDisconnected => o.onWsDisconnected
  | .sessionOpened => o.onWsReconnected
  | .captureError reason => o.onPipelineError reason
  | .encoderError reason => o.onPipelineError reason
  | .socketStateChanged socket => { o with wsClient := { o.wsClient with socket := socket } }
  | .timePasses ms => { o with now := o.now + ms }

end AudioSessionOrchestrator

end PairionClient
