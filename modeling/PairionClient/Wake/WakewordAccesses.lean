import PairionClient.Audio.Capture
import PairionClient.Lib.Checked
import PairionClient.Wake.WakewordDetector

/-!
# The wake word detector at work

The functions of `wake/open_wakeword_detector.cpp` once more, as the source computes them: sizes pass through `int`, rows and
features are copied through iterators, and each access is checked. What the models are given, the rows and features that are
kept, and what is announced are seen in their order. After an access out of range a model's turn ends. `Wake/WakewordDetector`
is the same detector for outputs whose sizes are those of an `int`.
-/

namespace PairionClient

open Blocks Checked

/-- `static_cast<int>` of a size. -/
def staticCastInt (size : Nat) : Int := (Int32.ofNat size).toInt

/-- What is seen of the detector at work. -/
inductive WakeSeen where
  | melInput (input : List ℚ)
  | melRow (row : List ℚ)
  | embeddingInput (input : List ℚ)
  | feature (values : List ℚ)
  | classifierInput (input : List ℚ)
  | wakeWordDetected (signal : WakeSignal)
  | outOfRange
  deriving DecidableEq, Repr

/-- The detector, and what was seen of it so far. -/
structure WakeRun where
  detector : OpenWakewordDetector
  seen : List WakeSeen := []
  deriving DecidableEq, Repr

namespace WakeRun

open OpenWakewordDetector

def see (x : WakeSeen) (r : WakeRun) : WakeRun := { r with seen := r.seen ++ [x] }

def modify (f : OpenWakewordDetector → OpenWakewordDetector) (r : WakeRun) : WakeRun := { r with detector := f r.detector }

@[simp] theorem detector_see (x : WakeSeen) (r : WakeRun) : (r.see x).detector = r.detector := rfl

@[simp] theorem seen_modify (f : OpenWakewordDetector → OpenWakewordDetector) (r : WakeRun) : (r.modify f).seen = r.seen := rfl

variable (env : Env)

/-- A row that was read is transformed and kept. -/
def pushRow (row : Option (List ℚ)) (r : WakeRun) : WakeRun :=
  match row with
  | none => r.see .outOfRange
  | some row =>
    let row := row.map (melTransform env)
    (r.modify fun d => { d with melBuffer := d.melBuffer ++ [row] }).see (.melRow row)

/-- The last rows of the output, at most `kMelRowsPerChunk` of them. -/
def pushRows (melData : List ℚ) (r : WakeRun) : WakeRun :=
  let totalMelRows := (staticCastInt melData.length).tdiv kMelFrameWidth
  let newRows := min totalMelRows kMelRowsPerChunk
  let startRow := totalMelRows - newRows
  (List.range (totalMelRows - startRow).toNat).foldl (fun r (i : Nat) =>
    let f := startRow + i
    r.pushRow env (range melData (f * kMelFrameWidth) ((f + 1) * kMelFrameWidth))) r

/-- The last 76 rows, one after the other. -/
def embInput (melBuffer : List (List ℚ)) : Option (List ℚ) :=
  let embStartRow := staticCastInt melBuffer.length - kMelFramesNeeded
  fill kMelFrameWidth (fun i => index melBuffer (embStartRow + i)) kMelFramesNeeded
    (List.replicate (kMelFramesNeeded * kMelFrameWidth) 0)

/-- The last 16 features, each copied into its place. -/
def clsInput (embFeatures : List (List ℚ)) : Option (List ℚ) :=
  let startFeat := staticCastInt embFeatures.length - kEmbFeaturesNeeded
  fill kEmbFeatureSize
    (fun i => (index embFeatures (startFeat + i)).bind fun feat =>
      let copySize := min (staticCastInt feat.length) kEmbFeatureSize
      range feat 0 copySize)
    kEmbFeaturesNeeded (List.replicate (kEmbFeaturesNeeded * kEmbFeatureSize) 0)

/-- Trim the rows to the last 200. -/
def trimRows (r : WakeRun) : WakeRun := r.modify fun d => { d with melBuffer := keepLast kMelBufferMaxLen d.melBuffer }

/-- Keep a feature, of which there are at most 120. -/
def pushFeature (values : List ℚ) (r : WakeRun) : WakeRun :=
  (r.modify fun d => { d with embFeatures := keepLast kFeatureBufferMaxLen (d.embFeatures ++ [values]) }).see (.feature values)

/-- Begin the suppression and announce the score. -/
def detect (now : Nat) (score : ℚ) (r : WakeRun) : WakeRun :=
  (r.modify fun d => { d with suppressionActive := true, suppressionTimer := now }).see
    (.wakeWordDetected ⟨score, r.detector.preRollBuffer⟩)

/-- Go on with what was read, unless an access was out of range. -/
def reading (read : Option (List ℚ)) (next : List ℚ → WakeRun) (r : WakeRun) : WakeRun :=
  match read with
  | none => r.see .outOfRange
  | some input => next input

variable (S : WakeSessions) (now : Nat)

def runClassifier (r : WakeRun) : WakeRun :=
  r.reading (clsInput r.detector.embFeatures) fun input =>
    let r := r.see (.classifierInput input)
    match S.classifier input with
    | (score :: _) :: _ =>
      if score < env.toFloat32 r.detector.threshold then r
      else if r.detector.suppressionActive ∧ now - r.detector.suppressionTimer < kWakeSuppressionMs then r
      else r.detect now score
    | _ => r

/-- The end of `processAccumulatedAudio`, from the embedding stage on. -/
def runEmbedding (r : WakeRun) : WakeRun :=
  if staticCastInt r.detector.melBuffer.length < kMelFramesNeeded then r
  else
    r.reading (embInput r.detector.melBuffer) fun input =>
      let r := r.see (.embeddingInput input)
      match S.embedding input with
      | (f :: fs) :: _ =>
        let r := r.pushFeature (f :: fs)
        if staticCastInt r.detector.embFeatures.length < kEmbFeaturesNeeded then r else runClassifier env S now r
      | _ => r

def processAccumulatedAudio (r : WakeRun) : WakeRun :=
  let windowSize := kMelChunkSamples + kMelContextSamples
  let size := r.detector.rawAudioBuffer.length
  if staticCastInt size < windowSize then r
  else
    r.reading (range r.detector.rawAudioBuffer (size - windowSize) size) fun input =>
      let r := r.see (.melInput input)
      match S.mel input with
      | (m :: ms) :: _ => runEmbedding env S now (r.pushRows env (m :: ms)).trimRows
      | _ => r

/-- Erase what is more than 32000 samples. -/
def trimRawAudio (r : WakeRun) : WakeRun :=
  let size := r.detector.rawAudioBuffer.length
  if staticCastInt size > kMaxRawBufferSamples then
    r.reading (range r.detector.rawAudioBuffer (staticCastInt size - kMaxRawBufferSamples) size) fun rest =>
      r.modify fun d => { d with rawAudioBuffer := rest }
  else r

/-- Run the models once 1280 samples have accumulated. -/
def processWhenFull (r : WakeRun) : WakeRun :=
  if r.detector.accumulatedSamples ≥ kMelChunkSamples then (processAccumulatedAudio env S now r).modify clearAccumulated else r

def processPcmFrame (pcm20ms : Bytes) (r : WakeRun) : WakeRun :=
  trimRawAudio (processWhenFull env S now (r.modify (appendPcm pcm20ms)))

/-! ## Warm-up and runs -/

def warmupChunks : Nat := kMelFramesNeeded / kMelRowsPerChunk + kEmbFeaturesNeeded + 2

/-- A chunk of silence in the samples. -/
def pushSilence (d : OpenWakewordDetector) : OpenWakewordDetector :=
  { d with
    rawAudioBuffer := d.rawAudioBuffer ++ List.replicate kMelChunkSamples 0
    accumulatedSamples := kMelChunkSamples }

/-- A turn of the loop of `warmup`. -/
def warmupChunk (r : WakeRun) : WakeRun :=
  (processAccumulatedAudio env S now (r.modify pushSilence)).modify clearAccumulated

end WakeRun

/-- What the sessions return during a turn, and its instant. -/
structure WakeTurn where
  sessions : WakeSessions
  now : Nat

/-- A call of `processPcmFrame`. -/
structure WakeCall extends WakeTurn where
  frame : PcmFrame

namespace WakeRun

variable (env : Env)

/-- The sessions may return something else in every turn. -/
def warmup (turns : Nat → WakeTurn) (r : WakeRun) : WakeRun :=
  (List.range warmupChunks).foldl (fun r i => warmupChunk env (turns i).sessions (turns i).now r) r

/-- A detector after construction, and after `warmup` when it is called. -/
def start (threshold : ℚ) (turns : Option (Nat → WakeTurn)) : WakeRun :=
  let r : WakeRun := { detector := { threshold } }
  match turns with
  | none => r
  | some turns => warmup env turns r

def step (r : WakeRun) (call : WakeCall) : WakeRun := processPcmFrame env call.sessions call.now call.frame.1 r

end WakeRun

end PairionClient
