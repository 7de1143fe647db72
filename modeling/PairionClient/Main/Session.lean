import PairionClient.Audio.Playback
import PairionClient.Pipeline.Orchestrator

/-!
# The orchestrator with its playback

The part of the main thread that receives audio: the orchestrator and the playback engine it drives. The playback's
"speaking" and "idle" run the orchestrator's slots before the playback's own slot goes on; the slots they run do not touch
the playback, so delivering them at the end is the same. Playback errors are connected to nothing.
-/

namespace PairionClient

structure Session where
  orchestrator : AudioSessionOrchestrator
  playback : PairionAudioPlayback
  deriving DecidableEq, Repr

namespace Session

open AudioSessionOrchestrator (due)

def onPlaybackSignal (o : AudioSessionOrchestrator) : PlaybackSignal → AudioSessionOrchestrator
  | .speakingStateChanged state => o.onSpeakingStateChanged state
  | .playbackError _ => o

/-- The session after an operation of the playback, with its signals delivered. -/
def afterPlayback (r : PairionAudioPlayback × List PlaybackSignal) (s : Session) : Session :=
  { orchestrator := r.2.foldl onPlaybackSignal s.orchestrator, playback := r.1 }

/-- `onInboundAudio`: the payload of a binary frame goes to the playback, whatever stream its prefix names. -/
def onInboundAudio (env : Env) (binaryFrame : Bytes) (accepts : List Nat) (s : Session) : Session :=
  let decoded := BinaryCodec.decodeBinaryFrame binaryFrame
  if decoded.payload = [] then s
  else s.afterPlayback (s.playback.handleOpusFrame env s.orchestrator.now decoded.payload accepts)

/-- The barge-in timer expires. `executeBargeIn` stops the playback, which is speaking or not. -/
def onBargeInTimeout (env : Env) (preRoll : Bytes) (s : Session) : Session :=
  let o := s.orchestrator
  { orchestrator := o.step env (.bargeInTimeout preRoll s.playback.isSpeaking)
    playback := if due o.bargeInTimer o.now ∧ o.state = .playingBack then s.playback.stop.1 else s.playback }

/-! ## Events -/

/-- What can happen to the session: the events of the orchestrator that do not go through the playback (those that do are
ignored as `client` events), and the messages and timers that do. -/
inductive Event where
  | client (e : AudioSessionOrchestrator.Event)
  | bargeInTimeout (preRoll : Bytes)
  | audioStreamStartOut (streamId : String) (opened : Bool) (accepts : List Nat)
  | binaryFrame (frame : Bytes) (accepts : List Nat)
  | audioStreamEndOut (streamId reason : String)
  | silenceTimeout
  | drainTick (accepts : List Nat)
  deriving DecidableEq, Repr

/-- The events of the orchestrator that do not go through the playback. -/
def isClient : AudioSessionOrchestrator.Event → Bool
  | .bargeInTimeout _ _ | .speakingStateChanged _ | .inboundAudioStreamStart _ => false
  | _ => true

def step (env : Env) (s : Session) : Event → Session
  | .client e => if isClient e then { s with orchestrator := s.orchestrator.step env e } else s
  | .bargeInTimeout preRoll => s.onBargeInTimeout env preRoll
  | .audioStreamStartOut streamId opened accepts =>
    { orchestrator := s.orchestrator.step env (.inboundAudioStreamStart streamId)
      playback := s.playback.preparePlayback opened accepts }
  | .binaryFrame frame accepts => s.onInboundAudio env frame accepts
  | .audioStreamEndOut _ reason => s.afterPlayback (s.playback.handleStreamEnd reason)
  | .silenceTimeout =>
    if due s.playback.silenceTimer s.orchestrator.now then s.afterPlayback s.playback.silenceTimeout else s
  | .drainTick accepts => { s with playback := s.playback.drainTick accepts }

end Session

end PairionClient
