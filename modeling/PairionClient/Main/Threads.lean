import PairionClient.Audio.Capture
import PairionClient.Pipeline.Orchestrator
import PairionClient.Wake.WakewordDetector

/-!
# The threads of the pipeline

`initAudioPipeline`: capture runs on the main thread and posts each frame to the encoder thread, and to the inference
thread for the wake detector and then for the VAD. The worker threads post what they emit to the event queue of the main
thread, where the orchestrator's slots run. A worker thread handles a frame in one step and a slot runs in one step, so
the main thread's calls into the VAD and its reading of the pre-roll buffer fall between two frames of the inference
thread. Other events of the main thread, such as timers and the socket, come whenever they like. The slot that opens a
stream also resets the VAD, so the queue before the slot is the queue as it stands when the VAD is reset; a reset that runs
while the inference thread is inside a frame, which no lock forbids, is left out.
-/

namespace PairionClient

/-- The environment, and what the ONNX sessions of the wake detector and of the VAD return. -/
structure ThreadsEnv extends Env where
  wakeSessions : WakeSessions
  vadSession : List ℚ → List ℚ → List (List ℚ)

/-- A frame posted to the inference thread: to `OpenWakewordDetector::processPcmFrame` or to `SileroVad::processPcmFrame`.
-/
inductive InferenceTask where
  | wake (frame : PcmFrame)
  | vad (frame : PcmFrame)
  deriving DecidableEq, Repr

/-- A signal posted to the main thread. That of the wake detector goes with the number of frames it had been given. -/
inductive Posted where
  | encoded (signal : EncoderSignal)
  | wake (frames : Nat) (signal : WakeSignal)
  | vad (signal : VadSignal)
  deriving DecidableEq, Repr

/-- What the slot connected to a posted signal is called with. -/
def Posted.event : Posted → AudioSessionOrchestrator.Event
  | .encoded (.opusFrameEncoded opusFrame) => .opusFrameEncoded opusFrame
  | .encoded (.encoderError reason) => .encoderError reason
  | .wake _ signal => .wakeWordDetected signal.score signal.preRollBuffer
  | .vad .speechStarted => .speechStarted
  | .vad .speechEnded => .speechEnded

structure Threads where
  orchestrator : AudioSessionOrchestrator
  encoder : PairionOpusEncoder := {}
  detector : OpenWakewordDetector
  encoderQueue : List PcmFrame := []
  inferenceQueue : List InferenceTask := []
  mainQueue : List Posted := []
  /-- What capture has emitted, how many frames the wake detector has been given, and what the main thread has taken from its
  queue. -/
  captured : List PcmFrame := []
  heard : Nat := 0
  handled : List Posted := []
  deriving DecidableEq

namespace Threads

/-- An event of the main thread's own, a barge-in with the pre-roll buffer as it is; the others come from the worker
threads. -/
def ownEvent (d : OpenWakewordDetector) : AudioSessionOrchestrator.Event → Option AudioSessionOrchestrator.Event
  | .wakeWordDetected _ _ | .speechStarted | .speechEnded | .opusFrameEncoded _ | .encoderError _ => none
  | .bargeInTimeout _ wasSpeaking => some (.bargeInTimeout d.preRollBuffer wasSpeaking)
  | e => some e

/-- Capture emits a frame. -/
def audioFrameAvailable (frame : PcmFrame) (t : Threads) : Threads :=
  { t with
    captured := t.captured ++ [frame]
    encoderQueue := t.encoderQueue ++ [frame]
    inferenceQueue := t.inferenceQueue ++ [.wake frame, .vad frame] }

/-- The encoder thread takes a frame. -/
def runEncoder (env : Env) (t : Threads) : Threads :=
  match t.encoderQueue with
  | [] => t
  | frame :: rest =>
    let r := t.encoder.encodePcmFrame env frame
    { t with encoderQueue := rest, encoder := r.1, mainQueue := t.mainQueue ++ [.encoded r.2] }

/-- The inference thread takes a frame for the wake detector or for the VAD. -/
def runInference (E : ThreadsEnv) (t : Threads) : Threads :=
  match t.inferenceQueue with
  | [] => t
  | .wake frame :: rest =>
    let r := t.detector.processPcmFrame E.toEnv E.wakeSessions t.orchestrator.now frame
    { t with
      inferenceQueue := rest, detector := r.1, heard := t.heard + 1
      mainQueue := t.mainQueue ++ r.2.map (.wake (t.heard + 1)) }
  | .vad frame :: rest =>
    let r := t.orchestrator.vad.processPcmFrame E.vadSession t.orchestrator.now frame
    { t with
      inferenceQueue := rest, orchestrator := { t.orchestrator with vad := r.1 }
      mainQueue := t.mainQueue ++ r.2.map .vad }

/-- The main thread takes a posted signal. -/
def runMain (env : Env) (t : Threads) : Threads :=
  match t.mainQueue with
  | [] => t
  | posted :: rest =>
    { t with
      mainQueue := rest, handled := t.handled ++ [posted]
      orchestrator := t.orchestrator.step env posted.event }

/-- The main thread runs a slot on an event of its own. -/
def runOwn (env : Env) (e : AudioSessionOrchestrator.Event) (t : Threads) : Threads :=
  match ownEvent t.detector e with
  | none => t
  | some e => { t with orchestrator := t.orchestrator.step env e }

/-! ## Events -/

inductive Event where
  | audioFrameAvailable (frame : PcmFrame)
  | encoderThread
  | inferenceThread
  | mainThread
  | own (e : AudioSessionOrchestrator.Event)
  deriving DecidableEq

def step (E : ThreadsEnv) (t : Threads) : Event → Threads
  | .audioFrameAvailable frame => t.audioFrameAvailable frame
  | .encoderThread => t.runEncoder E.toEnv
  | .inferenceThread => t.runInference E
  | .mainThread => t.runMain E.toEnv
  | .own e => t.runOwn E.toEnv e

end Threads

end PairionClient
