import PairionClient.Core.Constants
import PairionClient.Lib.Blocks

/-!
# The wake word detector

`wake/open_wakeword_detector.cpp`: raw samples go through the melspectrogram, embedding and classifier models, each
feeding a rolling buffer, and a score above the threshold outside the suppression window is announced with the pre-roll
buffer, the last 6400 bytes of PCM. The three ONNX sessions are parameters: what each returns on its input, one list of
values per output.
-/

namespace PairionClient

/-- The three sessions of the detector. -/
structure WakeSessions where
  mel : List ℚ → List (List ℚ)
  embedding : List ℚ → List (List ℚ)
  classifier : List ℚ → List (List ℚ)

/-- `wakeWordDetected(score, preRollBuffer)`. -/
structure WakeSignal where
  score : ℚ
  preRollBuffer : Bytes
  deriving DecidableEq, Repr

structure OpenWakewordDetector where
  threshold : ℚ := 1 / 2
  rawAudioBuffer : List ℚ := List.replicate 480 0
  accumulatedSamples : Nat := 0
  melBuffer : List (List ℚ) := []
  embFeatures : List (List ℚ) := []
  preRollBuffer : Bytes := []
  /-- The instant at which `m_suppressionTimer` was last started. -/
  suppressionTimer : Nat := 0
  suppressionActive : Bool := false
  deriving DecidableEq, Repr

namespace OpenWakewordDetector

open Blocks

def kMelChunkSamples : Nat := 1280
def kMelContextSamples : Nat := 480
def kMelRowsPerChunk : Nat := 8
def kMelFrameWidth : Nat := 32
def kMelFramesNeeded : Nat := 76
def kMelBufferMaxLen : Nat := 200
def kEmbFeaturesNeeded : Nat := 16
def kEmbFeatureSize : Nat := 96
def kFeatureBufferMaxLen : Nat := 120
def kMaxRawBufferSamples : Nat := 32000

/-- The openWakeWord mel transform, `v / 10.0f + 2.0f`. -/
def melTransform (env : Env) (v : ℚ) : ℚ := env.toFloat32 (env.toFloat32 (v / 10) + 2)

/-- The last rows of a melspectrogram output, at most `kMelRowsPerChunk` of them, transformed. -/
def melRows (env : Env) (melData : List ℚ) : List (List ℚ) :=
  let totalMelRows := melData.length / kMelFrameWidth
  let newRows := min totalMelRows kMelRowsPerChunk
  (List.range newRows).map fun i =>
    ((melData.drop ((totalMelRows - newRows + i) * kMelFrameWidth)).take kMelFrameWidth).map (melTransform env)

/-- The classifier's input: the last features, each cut or padded with zeros to `kEmbFeatureSize`. -/
def classifierInput (embFeatures : List (List ℚ)) : List ℚ :=
  (keepLast kEmbFeaturesNeeded embFeatures).flatMap fun feat =>
    feat.take kEmbFeatureSize ++ List.replicate (kEmbFeatureSize - feat.length) 0

/-- Score the last features, and announce a score that is high enough outside the suppression window. -/
def runClassifier (env : Env) (S : WakeSessions) (now : Nat) (d : OpenWakewordDetector) :
    OpenWakewordDetector × List WakeSignal :=
  match S.classifier (classifierInput d.embFeatures) with
  | (score :: _) :: _ =>
    if score < env.toFloat32 d.threshold then (d, [])
    else if d.suppressionActive ∧ now - d.suppressionTimer < kWakeSuppressionMs then (d, [])
    else ({ d with suppressionActive := true, suppressionTimer := now }, [⟨score, d.preRollBuffer⟩])
  | _ => (d, [])

/-- Run the three models on the last 1760 samples; each stage returns early when it lacks input or output. -/
def processAccumulatedAudio (env : Env) (S : WakeSessions) (now : Nat) (d : OpenWakewordDetector) :
    OpenWakewordDetector × List WakeSignal :=
  let windowSize := kMelChunkSamples + kMelContextSamples
  if d.rawAudioBuffer.length < windowSize then (d, [])
  else
    match S.mel (keepLast windowSize d.rawAudioBuffer) with
    | (m :: ms) :: _ =>
      let d := { d with melBuffer := keepLast kMelBufferMaxLen (d.melBuffer ++ melRows env (m :: ms)) }
      if d.melBuffer.length < kMelFramesNeeded then (d, [])
      else
        match S.embedding (keepLast kMelFramesNeeded d.melBuffer).flatten with
        | (f :: fs) :: _ =>
          let d := { d with embFeatures := keepLast kFeatureBufferMaxLen (d.embFeatures ++ [f :: fs]) }
          if d.embFeatures.length < kEmbFeaturesNeeded then (d, []) else runClassifier env S now d
        | _ => (d, [])
    | _ => (d, [])

/-- The buffers after a frame has been appended to them: the pre-roll window, and the samples as floats at int16 scale. -/
def appendPcm (pcm20ms : Bytes) (d : OpenWakewordDetector) : OpenWakewordDetector :=
  let samples : List ℚ := (pcmSamples pcm20ms).map fun (s : Int) => (s : ℚ)
  { d with
    preRollBuffer := keepLast kPreRollBytes (d.preRollBuffer ++ pcm20ms)
    rawAudioBuffer := d.rawAudioBuffer ++ samples
    accumulatedSamples := d.accumulatedSamples + samples.length }

/-- `m_accumulatedSamples = 0`. -/
def clearAccumulated (d : OpenWakewordDetector) : OpenWakewordDetector := { d with accumulatedSamples := 0 }

/-- Trim the raw audio buffer to its last 32000 samples. -/
def trimRawAudio (d : OpenWakewordDetector) : OpenWakewordDetector :=
  { d with rawAudioBuffer := keepLast kMaxRawBufferSamples d.rawAudioBuffer }

/-- Run the models once 1280 samples have accumulated. -/
def processWhenFull (env : Env) (S : WakeSessions) (now : Nat) (d : OpenWakewordDetector) :
    OpenWakewordDetector × List WakeSignal :=
  if kMelChunkSamples ≤ d.accumulatedSamples then (processAccumulatedAudio env S now d).map clearAccumulated id
  else (d, [])

/-- Process a 20 ms PCM frame. -/
def processPcmFrame (env : Env) (S : WakeSessions) (now : Nat) (pcm20ms : Bytes) (d : OpenWakewordDetector) :
    OpenWakewordDetector × List WakeSignal :=
  (processWhenFull env S now (appendPcm pcm20ms d)).map trimRawAudio id

/-! ## The pre-roll buffer -/

/-- A frame goes to the end of the pre-roll buffer, which keeps its last bytes. -/
theorem preRollBuffer_appendPcm (pcm : Bytes) (d : OpenWakewordDetector) :
    (appendPcm pcm d).preRollBuffer = keepLast kPreRollBytes (d.preRollBuffer ++ pcm) := rfl

@[simp] theorem preRollBuffer_clearAccumulated (d : OpenWakewordDetector) :
    (clearAccumulated d).preRollBuffer = d.preRollBuffer := rfl

@[simp] theorem preRollBuffer_trimRawAudio (d : OpenWakewordDetector) :
    (trimRawAudio d).preRollBuffer = d.preRollBuffer := rfl

/-- The classifier stage leaves the pre-roll buffer, and announces with it. -/
theorem preRollBuffer_runClassifier (env : Env) (S : WakeSessions) (now : Nat) (d : OpenWakewordDetector) :
    (runClassifier env S now d).1.preRollBuffer = d.preRollBuffer ∧
      ∀ w ∈ (runClassifier env S now d).2, w.preRollBuffer = d.preRollBuffer := by
  unfold runClassifier
  split
  · split
    · simp
    · split <;> simp
  · simp

theorem preRollBuffer_processAccumulatedAudio (env : Env) (S : WakeSessions) (now : Nat) (d : OpenWakewordDetector) :
    (processAccumulatedAudio env S now d).1.preRollBuffer = d.preRollBuffer ∧
      ∀ w ∈ (processAccumulatedAudio env S now d).2, w.preRollBuffer = d.preRollBuffer := by
  unfold processAccumulatedAudio
  simp only
  split
  · simp
  · split
    · split
      · simp
      · split
        · split
          · simp
          · exact preRollBuffer_runClassifier env S now _
        · simp
    · simp

theorem preRollBuffer_processWhenFull (env : Env) (S : WakeSessions) (now : Nat) (d : OpenWakewordDetector) :
    (processWhenFull env S now d).1.preRollBuffer = d.preRollBuffer ∧
      ∀ w ∈ (processWhenFull env S now d).2, w.preRollBuffer = d.preRollBuffer := by
  unfold processWhenFull
  split
  · simp only [Prod.map_fst, Prod.map_snd, preRollBuffer_clearAccumulated, id]
    exact preRollBuffer_processAccumulatedAudio env S now d
  · simp

/-- After a frame the pre-roll buffer is the window of the last bytes of the stream, and what is announced carries it. -/
theorem preRollBuffer_processPcmFrame (env : Env) (S : WakeSessions) (now : Nat) (pcm : Bytes)
    (d : OpenWakewordDetector) :
    (processPcmFrame env S now pcm d).1.preRollBuffer = keepLast kPreRollBytes (d.preRollBuffer ++ pcm) ∧
      ∀ w ∈ (processPcmFrame env S now pcm d).2, w.preRollBuffer = keepLast kPreRollBytes (d.preRollBuffer ++ pcm) := by
  unfold processPcmFrame
  simp only [Prod.map_fst, Prod.map_snd, preRollBuffer_trimRawAudio, id]
  rw [← preRollBuffer_appendPcm]
  exact preRollBuffer_processWhenFull env S now _

end OpenWakewordDetector

end PairionClient
