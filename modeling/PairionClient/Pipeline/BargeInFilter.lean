import PairionClient.Lib.Sounds
import PairionClient.Pipeline.Orchestrator

/-!
# The barge-in filter over time

The VAD's windows and the orchestrator's barge-in timer on one clock. A window is what the VAD's session returns at an
instant; its signals reach the orchestrator at once. The timer expires at its deadline; which comes first when a window
falls on the deadline is a parameter, as are the pre-roll buffer and what playback does in a barge-in. After the last
window the timer, if it is active, runs out.
-/

namespace PairionClient

/-- An inference of the VAD: when, and what the session returns. -/
structure InferenceWindow where
  time : Nat
  outputs : List (List ℚ)
  deriving DecidableEq, Repr

/-- What the filter takes from its surroundings. -/
structure FilterEnv extends Env where
  preRoll : Bytes
  wasSpeaking : Bool
  /-- A window on the deadline is handled before the timer. -/
  windowFirst : Bool

namespace AudioSessionOrchestrator

/-- The VAD's signals are connected to the orchestrator's slots. -/
def onVadSignal (o : AudioSessionOrchestrator) : VadSignal → AudioSessionOrchestrator
  | .speechStarted => o.onVadSpeechStarted
  | .speechEnded => o.onSpeechEnded

/-- The barge-in timer expires at its deadline. -/
def expire (F : FilterEnv) (deadline : Nat) (o : AudioSessionOrchestrator) : AudioSessionOrchestrator :=
  { o with now := deadline }.step F.toEnv (.bargeInTimeout F.preRoll F.wasSpeaking)

/-- Time passes up to a window. -/
def advance (F : FilterEnv) (time : Nat) (o : AudioSessionOrchestrator) : AudioSessionOrchestrator :=
  match o.bargeInTimer with
  | none => { o with now := time }
  | some deadline =>
    if Sounds.Before F.windowFirst time deadline then { o with now := time } else { o.expire F deadline with now := time }

/-- A window is run through the VAD. -/
def onWindow (F : FilterEnv) (o : AudioSessionOrchestrator) (w : InferenceWindow) : AudioSessionOrchestrator :=
  let o := o.advance F w.time
  let r := o.vad.runInference w.time w.outputs
  r.2.foldl onVadSignal { o with vad := r.1 }

/-- After the last window, an active timer runs out. -/
def settle (F : FilterEnv) (o : AudioSessionOrchestrator) : AudioSessionOrchestrator :=
  match o.bargeInTimer with
  | none => o
  | some deadline => o.expire F deadline

def hear (F : FilterEnv) (o : AudioSessionOrchestrator) (ws : List InferenceWindow) : AudioSessionOrchestrator :=
  (ws.foldl (onWindow F) o).settle F

end AudioSessionOrchestrator

end PairionClient
