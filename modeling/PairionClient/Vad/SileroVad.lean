import PairionClient.Core.Constants
import PairionClient.Lib.Blocks

/-!
# The voice activity detector

`vad/silero_vad.cpp`: PCM is cut into chunks of 512 samples, each chunk is run through the model with the recurrent state,
and the speech probability drives a three-state machine. The ONNX session is a parameter: what it returns on the samples
and the recurrent state, one list of values per output.
-/

namespace PairionClient

inductive VadState where
  | idle | speaking | trailing
  deriving DecidableEq, Repr

inductive VadSignal where
  | speechStarted | speechEnded
  deriving DecidableEq, Repr

structure SileroVad where
  threshold : ℚ := 1 / 2
  silenceEndMs : Int := 800
  state : VadState := .idle
  /-- The instant at which `m_silenceTimer` was last started. -/
  silenceTimer : Nat := 0
  recurrentState : List ℚ := List.replicate 256 0
  accumulator : Bytes := []
  deriving DecidableEq, Repr

namespace SileroVad

def create (threshold : ℚ) (silenceEndMs : Int) : SileroVad := { threshold := threshold, silenceEndMs := silenceEndMs }

/-- 512 samples of 2 bytes. -/
def kInferenceBytes : Nat := 1024

/-- The samples of a chunk, scaled to [-1, 1). -/
def samples (chunk : Bytes) : List ℚ := (pcmSamples chunk).map fun (s : Int) => (s : ℚ) / 32768

/-- The state machine of `runInference` on a speech probability. -/
def transition (now : Nat) (speechProb : ℚ) (v : SileroVad) : SileroVad × List VadSignal :=
  match v.state with
  | .idle => if speechProb ≥ v.threshold then ({ v with state := .speaking }, [.speechStarted]) else (v, [])
  | .speaking =>
    if speechProb < v.threshold then ({ v with state := .trailing, silenceTimer := now }, []) else (v, [])
  | .trailing =>
    if speechProb ≥ v.threshold then ({ v with state := .speaking }, [])
    else if (now : Int) - v.silenceTimer ≥ v.silenceEndMs then ({ v with state := .idle }, [.speechEnded])
    else (v, [])

/-- The speech probability in what the session returned, zero when the first output is empty. (The source reads the first
of at least one output.) -/
def speechProb (outputs : List (List ℚ)) : ℚ := (outputs.headD []).headD 0

/-- `runInference`, after `m_session->run` has returned `outputs`. -/
def runInference (now : Nat) (outputs : List (List ℚ)) (v : SileroVad) : SileroVad × List VadSignal :=
  let v := if outputs.length ≥ 2 then { v with recurrentState := outputs.getD 1 [] } else v
  v.transition now (speechProb outputs)

/-- Run the chunks of the accumulator, in order. -/
def processPcmFrame (session : List ℚ → List ℚ → List (List ℚ)) (now : Nat) (pcm20ms : Bytes) (v : SileroVad) :
    SileroVad × List VadSignal :=
  let r := Blocks.cut kInferenceBytes (v.accumulator ++ pcm20ms)
  r.1.foldl (fun acc chunk =>
    let out := acc.1.runInference now (session (samples chunk) acc.1.recurrentState)
    (out.1, acc.2 ++ out.2)) ({ v with accumulator := r.2 }, [])

/-- Clear the state machine, the accumulator and the recurrent state (to as many zeros as it held); the threshold stays.
-/
def reset (v : SileroVad) : SileroVad :=
  { v with state := .idle, accumulator := [], recurrentState := v.recurrentState.map fun _ => 0 }

def setThreshold (threshold : ℚ) (v : SileroVad) : SileroVad := { v with threshold := threshold }

@[simp] theorem threshold_reset (v : SileroVad) : v.reset.threshold = v.threshold := rfl

@[simp] theorem reset_reset (v : SileroVad) : v.reset.reset = v.reset := by
  simp [reset]

@[simp] theorem reset_setThreshold (t : ℚ) (v : SileroVad) : (v.reset.setThreshold t).reset = (v.setThreshold t).reset := by
  simp [reset, setThreshold]

@[simp] theorem setThreshold_setThreshold (s t : ℚ) (v : SileroVad) :
    (v.setThreshold s).setThreshold t = v.setThreshold t := rfl

@[simp] theorem threshold_setThreshold (t : ℚ) (v : SileroVad) : (v.setThreshold t).threshold = t := rfl

end SileroVad

end PairionClient
