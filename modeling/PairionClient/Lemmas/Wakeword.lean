import Mathlib.Tactic.Linarith
import PairionClient.Wake.WakewordAccesses

/-!
# Lemmas on the wake word detector

What each stage reads and copies: sizes below `2 ^ 31` pass through `int` unchanged, a melspectrogram output is read up to the
size that the `int` gives, and the two inputs are the windows of the buffers they are copied from. The rules of the later
stages say what holds after them.
-/

namespace PairionClient

open Blocks Checked

/-- `static_cast<int>` keeps the residue modulo 2^32. -/
theorem staticCastInt_eq (size : Nat) : staticCastInt size = (size : Int).bmod 4294967296 := Int32.toInt_ofNat'

/-- A size below 2^31 is kept. -/
theorem staticCastInt_of_lt {size : Nat} (h : size < 2147483648) : staticCastInt size = size :=
  Int32.toInt_ofNat_of_lt (by omega)

/-- No size becomes larger. -/
theorem staticCastInt_le (size : Nat) : staticCastInt size ≤ size := by
  by_cases h : size < 2147483648
  · rw [staticCastInt_of_lt h]
  · have hlt := Int.bmod_lt (x := size) (m := 4294967296) (by omega)
    rw [staticCastInt_eq]
    omega

namespace WakeSeen

def melInput? : WakeSeen → Option (List ℚ)
  | .melInput input => some input
  | _ => none

def melRow? : WakeSeen → Option (List ℚ)
  | .melRow row => some row
  | _ => none

def feature? : WakeSeen → Option (List ℚ)
  | .feature values => some values
  | _ => none

def signal? : WakeSeen → Option WakeSignal
  | .wakeWordDetected signal => some signal
  | _ => none

end WakeSeen

/-- The inputs of the melspectrogram model, the rows, the features and the announcements, each in its order. -/
def melInputs (seen : List WakeSeen) : List (List ℚ) := seen.filterMap WakeSeen.melInput?

def rowsOf (seen : List WakeSeen) : List (List ℚ) := seen.filterMap WakeSeen.melRow?

def featuresOf (seen : List WakeSeen) : List (List ℚ) := seen.filterMap WakeSeen.feature?

def signalsOf (seen : List WakeSeen) : List WakeSignal := seen.filterMap WakeSeen.signal?

namespace WakeRun

open OpenWakewordDetector

variable (env : Env)

/-! ## Rows -/

/-- The rows of an output, read up to the size that its `int` gives. -/
def rowsRead (melData : List ℚ) : List (List ℚ) := melRows env (melData.take (staticCastInt melData.length).toNat)

/-- A row that is read has the width of a mel frame. -/
theorem length_of_mem_rowsRead {melData row : List ℚ} (h : row ∈ rowsRead env melData) : row.length = kMelFrameWidth := by
  rw [rowsRead, melRows] at h
  generalize melData.take (staticCastInt melData.length).toNat = xs at h
  obtain ⟨i, hi, rfl⟩ := List.mem_map.1 h
  rw [List.mem_range] at hi
  have hend : (xs.length / kMelFrameWidth - min (xs.length / kMelFrameWidth) kMelRowsPerChunk + i + 1) * kMelFrameWidth ≤
      xs.length := (Nat.mul_le_mul_right _ (by omega)).trans (Nat.div_mul_le_self _ _)
  rw [Nat.succ_mul] at hend
  rw [List.length_map, List.length_take, List.length_drop]
  omega

/-- A row that was read is transformed and appended. -/
theorem pushRow_some (row : List ℚ) (r : WakeRun) :
    r.pushRow env (some row) =
      { detector := { r.detector with melBuffer := r.detector.melBuffer ++ [row.map (melTransform env)] }
        seen := r.seen ++ [.melRow (row.map (melTransform env))] } := rfl

/-- Rows that are there are kept one after the other. -/
theorem foldl_pushRow {is : List Nat} {read : Nat → Option (List ℚ)} {rows : Nat → List ℚ}
    (h : ∀ i ∈ is, read i = some (rows i)) (r : WakeRun) :
    is.foldl (fun r i => r.pushRow env (read i)) r =
      { detector :=
          { r.detector with melBuffer := r.detector.melBuffer ++ is.map fun i => (rows i).map (melTransform env) }
        seen := r.seen ++ is.map fun i => .melRow ((rows i).map (melTransform env)) } := by
  induction is generalizing r with
  | nil => simp
  | cons i is ih =>
    rw [List.foldl_cons, h i List.mem_cons_self, pushRow_some, ih fun j hj => h j (List.mem_cons_of_mem i hj)]
    simp

/-- The number of rows, as an `int` and as the list gives it. -/
theorem toNat_tdiv (c : Int) : (c.tdiv kMelFrameWidth).toNat = c.toNat / kMelFrameWidth := by
  unfold kMelFrameWidth
  rw [Int.tdiv_eq_ediv, show Int.sign ((32 : Nat) : Int) = 1 from rfl]
  split <;> omega

/-- The whole loop appends the rows that were read, transformed. -/
theorem pushRows_eq (melData : List ℚ) (r : WakeRun) :
    r.pushRows env melData =
      { detector := { r.detector with melBuffer := r.detector.melBuffer ++ rowsRead env melData }
        seen := r.seen ++ (rowsRead env melData).map .melRow } := by
  have hle := staticCastInt_le melData.length
  rw [pushRows, rowsRead, melRows]
  generalize staticCastInt melData.length = c at hle ⊢
  have hlength : (melData.take c.toNat).length = c.toNat := by rw [List.length_take]; omega
  have htotal := toNat_tdiv c
  rw [hlength, ← htotal]
  have hend : (c.tdiv kMelFrameWidth).toNat * kMelFrameWidth ≤ c.toNat := htotal ▸ Nat.div_mul_le_self _ _
  generalize c.tdiv kMelFrameWidth = total at hend ⊢
  dsimp only
  have hcount : (total - (total - min total kMelRowsPerChunk)).toNat = min total.toNat kMelRowsPerChunk := by omega
  rw [hcount]
  have hread : ∀ i ∈ List.range (min total.toNat kMelRowsPerChunk),
      range melData ((total - min total kMelRowsPerChunk + i) * kMelFrameWidth)
          ((total - min total kMelRowsPerChunk + i + 1) * kMelFrameWidth) =
        some (((melData.take c.toNat).drop ((total.toNat - min total.toNat kMelRowsPerChunk + i) * kMelFrameWidth)).take
          kMelFrameWidth) := by
    intro i hi
    rw [List.mem_range] at hi
    have hstart : total - min total kMelRowsPerChunk + i = ((total.toNat - min total.toNat kMelRowsPerChunk + i : Nat) : Int) := by
      omega
    have hwithin : (total.toNat - min total.toNat kMelRowsPerChunk + i + 1) * kMelFrameWidth ≤ c.toNat :=
      (Nat.mul_le_mul_right _ (by omega)).trans hend
    generalize total.toNat - min total.toNat kMelRowsPerChunk + i = f at hstart hwithin ⊢
    rw [hstart]
    rw [Nat.succ_mul] at hwithin
    have hrange := range_eq melData (Nat.le_add_right (f * kMelFrameWidth) kMelFrameWidth) (by omega)
    rw [Nat.add_sub_cancel_left] at hrange
    rw [List.drop_take, List.take_take, Nat.min_eq_left (by omega), ← hrange]
    push_cast
    rw [Int.add_mul, Int.one_mul]
  rw [foldl_pushRow env hread, List.map_map]
  rfl

/-! ## What is seen -/

variable {r r' r'' : WakeRun} {β : Type} {f : WakeSeen → Option β}

/-- What is seen beside the question leaves its answer. -/
theorem filterMap_see {x : WakeSeen} (hx : f x = none) (r : WakeRun) : (r.see x).seen.filterMap f = r.seen.filterMap f := by
  rw [see, List.filterMap_append, List.filterMap_cons_none hx, List.filterMap_nil, List.append_nil]

/-- Whoever does not look for rows sees nothing of them. -/
theorem filterMap_pushRows (hf : ∀ row, f (.melRow row) = none) (melData : List ℚ) (r : WakeRun) :
    (r.pushRows env melData).seen.filterMap f = r.seen.filterMap f := by
  have hnone : (rowsRead env melData).filterMap (f ∘ WakeSeen.melRow) = [] := List.filterMap_eq_nil_iff.2 fun row _ => hf row
  rw [pushRows_eq, List.filterMap_append, List.filterMap_map, hnone, List.append_nil]

/-! ## The stages -/

variable (S : WakeSessions) (now : Nat) {P : WakeRun → Prop}

/-- What holds after a run of the classifier. -/
theorem runClassifier_rule (hnone : clsInput r.detector.embFeatures = none → P (r.see .outOfRange))
    (hsome : ∀ input, clsInput r.detector.embFeatures = some input → P (r.see (.classifierInput input)))
    (hdetect : ∀ input score, P (r.see (.classifierInput input)) → P ((r.see (.classifierInput input)).detect now score)) :
    P (runClassifier env S now r) := by
  rw [runClassifier]
  cases hread : clsInput r.detector.embFeatures with
  | none => exact hnone hread
  | some input =>
    have hinput := hsome input hread
    dsimp only [reading]
    split
    · split
      · exact hinput
      · split
        · exact hinput
        · exact hdetect input _ hinput
    · exact hinput

/-- What holds after the embedding stage, when the classifier keeps it. -/
theorem runEmbedding_rule (h : P r)
    (hnone : kMelFramesNeeded ≤ staticCastInt r.detector.melBuffer.length → embInput r.detector.melBuffer = none →
      P (r.see .outOfRange))
    (hsome : ∀ input, kMelFramesNeeded ≤ staticCastInt r.detector.melBuffer.length →
      embInput r.detector.melBuffer = some input → P (r.see (.embeddingInput input)))
    (hpush : ∀ input feat rest, S.embedding input = feat :: rest → P (r.see (.embeddingInput input)) →
      P ((r.see (.embeddingInput input)).pushFeature feat))
    (hclassifier : ∀ r', P r' → kEmbFeaturesNeeded ≤ staticCastInt r'.detector.embFeatures.length →
      P (runClassifier env S now r')) : P (runEmbedding env S now r) := by
  rw [runEmbedding]
  split
  · exact h
  · rename_i hneeded
    cases hread : embInput r.detector.melBuffer with
    | none => exact hnone (Int.not_lt.1 hneeded) hread
    | some input =>
      have hinput := hsome input (Int.not_lt.1 hneeded) hread
      dsimp only [reading]
      split
      · rename_i f fs rest houtput
        have hpushed := hpush input (f :: fs) rest houtput hinput
        split
        · exact hpushed
        · rename_i hmany
          exact hclassifier _ hpushed (Int.not_lt.1 hmany)
      · exact hinput

/-! ## Inputs -/

/-- From rows of full width the input of the embedding model is the last 76 of them, and every read is within the buffer.
-/
theorem embInput_eq {melBuffer : List (List ℚ)} (hneeded : kMelFramesNeeded ≤ melBuffer.length)
    (hsize : melBuffer.length < 2147483648) (hwidth : ∀ row ∈ melBuffer, row.length = kMelFrameWidth) :
    embInput melBuffer = some (keepLast kMelFramesNeeded melBuffer).flatten := by
  have hrow : ∀ i < kMelFramesNeeded,
      (melBuffer.getD (melBuffer.length - kMelFramesNeeded + i) []).length = kMelFrameWidth := by
    intro i hi
    rw [List.getD_eq_getElem _ _ (by omega)]
    exact hwidth _ (List.getElem_mem _)
  have hblocks := fill_eq _ (fun i hi => index_last hneeded hi []) (fun i hi => Nat.le_of_eq (hrow i hi)) 0
  rw [embInput, staticCastInt_of_lt hsize, hblocks, ← map_getD_range hneeded [], ← List.flatMap_def]
  congr 1
  refine List.flatMap_congr ?_
  intro i hi
  exact pad_eq_self (hrow i (List.mem_range.1 hi))

/-- The number of values that are copied is the number that should be. -/
def Fits (feat : List ℚ) : Prop := min (staticCastInt feat.length) kEmbFeatureSize = min (feat.length : Int) kEmbFeatureSize

/-- Any feature of less than `2 ^ 31` values. -/
theorem fits_of_lt {feat : List ℚ} (h : feat.length < 2147483648) : Fits feat := by
  rw [Fits, staticCastInt_of_lt h]

/-- A feature that fits is copied up to its first 96 values. -/
theorem Fits.range_copySize {feat : List ℚ} (h : Fits feat) :
    range feat 0 (min (staticCastInt feat.length) kEmbFeatureSize) = some (feat.take kEmbFeatureSize) := by
  have hcast : min (feat.length : Int) kEmbFeatureSize = (min kEmbFeatureSize feat.length : Nat) := by omega
  have hrange := range_eq feat (Nat.zero_le (min kEmbFeatureSize feat.length)) (Nat.min_le_right _ _)
  rw [List.drop_zero, Nat.sub_zero, ← List.take_eq_take_min] at hrange
  rw [Fits] at h
  rw [h, hcast]
  exact hrange

/-- From features that fit the input of the classifier is the last 16 of them, and every read is within the buffer. -/
theorem clsInput_eq {embFeatures : List (List ℚ)} (hneeded : kEmbFeaturesNeeded ≤ embFeatures.length)
    (hsize : embFeatures.length < 2147483648) (hfits : ∀ feat ∈ embFeatures, Fits feat) :
    clsInput embFeatures = some (classifierInput embFeatures) := by
  have hmem : ∀ i < kEmbFeaturesNeeded, embFeatures.getD (embFeatures.length - kEmbFeaturesNeeded + i) [] ∈ embFeatures := by
    intro i hi
    rw [List.getD_eq_getElem _ _ (by omega)]
    exact List.getElem_mem _
  rw [clsInput, staticCastInt_of_lt hsize, fill_eq (fun i =>
    (embFeatures.getD (embFeatures.length - kEmbFeaturesNeeded + i) []).take kEmbFeatureSize) ?_ ?_ 0]
  · rw [classifierInput, ← map_getD_range hneeded [], List.flatMap_map]
    congr 1
    refine List.flatMap_congr ?_
    intro i hi
    rw [pad, List.length_take]
    congr 2
    omega
  · intro i hi
    rw [index_last hneeded hi [], Option.bind_some]
    exact (hfits _ (hmem i hi)).range_copySize
  · intro i hi
    exact List.length_take_le _ _

/-- A feature of which a negative number of values is to be copied. -/
theorem clsInput_eq_none {embFeatures : List (List ℚ)} (hneeded : kEmbFeaturesNeeded ≤ embFeatures.length)
    (hsize : embFeatures.length < 2147483648) {feat : List ℚ} (hmem : feat ∈ keepLast kEmbFeaturesNeeded embFeatures)
    (hnegative : staticCastInt feat.length < 0) : clsInput embFeatures = none := by
  rw [← map_getD_range hneeded []] at hmem
  obtain ⟨i, hi, rfl⟩ := List.mem_map.1 hmem
  rw [List.mem_range] at hi
  rw [clsInput, staticCastInt_of_lt hsize]
  refine fill_eq_none hi ?_ _
  rw [index_last hneeded hi [], Option.bind_some]
  exact range_of_lt (by omega)

/-! ## What the later stages leave -/

/-- From `r` to `r'` the samples stay, and the melspectrogram model is given nothing. -/
structure Leaves (r r' : WakeRun) : Prop where
  raw : r'.detector.rawAudioBuffer = r.detector.rawAudioBuffer
  preRoll : r'.detector.preRollBuffer = r.detector.preRollBuffer
  inputs : melInputs r'.seen = melInputs r.seen

theorem Leaves.refl (r : WakeRun) : Leaves r r := ⟨rfl, rfl, rfl⟩

theorem Leaves.trans (h : Leaves r r') (h' : Leaves r' r'') : Leaves r r'' :=
  ⟨h'.raw.trans h.raw, h'.preRoll.trans h.preRoll, h'.inputs.trans h.inputs⟩

/-- A look at anything but the melspectrogram input leaves the audio. -/
theorem leaves_see {x : WakeSeen} (hx : x.melInput? = none) (r : WakeRun) : Leaves r (r.see x) :=
  ⟨rfl, rfl, filterMap_see hx r⟩

/-- Trimming the rows leaves the audio. -/
theorem leaves_trimRows (r : WakeRun) : Leaves r r.trimRows := ⟨rfl, rfl, rfl⟩

/-- A new feature leaves the audio. -/
theorem leaves_pushFeature (values : List ℚ) (r : WakeRun) : Leaves r (r.pushFeature values) :=
  ⟨rfl, rfl, (leaves_see (x := .feature values) rfl r).inputs⟩

/-- A detection leaves the audio. -/
theorem leaves_detect (now : Nat) (score : ℚ) (r : WakeRun) : Leaves r (r.detect now score) :=
  ⟨rfl, rfl, (leaves_see (x := .wakeWordDetected ⟨score, r.detector.preRollBuffer⟩) rfl r).inputs⟩

/-- New rows leave the audio. -/
theorem leaves_pushRows (melData : List ℚ) (r : WakeRun) : Leaves r (r.pushRows env melData) := by
  refine ⟨?_, ?_, filterMap_pushRows env (fun _ => rfl) melData r⟩
  · rw [pushRows_eq]
  · rw [pushRows_eq]

/-- The classifier stage leaves the audio. -/
theorem leaves_runClassifier (r : WakeRun) : Leaves r (runClassifier env S now r) :=
  runClassifier_rule env S now (fun _ => leaves_see rfl r) (fun _ _ => leaves_see rfl r)
    fun _ score hinput => hinput.trans (leaves_detect now score _)

/-- The embedding stage leaves the audio. -/
theorem leaves_runEmbedding (r : WakeRun) : Leaves r (runEmbedding env S now r) :=
  runEmbedding_rule env S now (.refl r) (fun _ _ => leaves_see rfl r) (fun _ _ _ => leaves_see rfl r)
    (fun _ feat _ _ hinput => hinput.trans (leaves_pushFeature feat _))
    fun r' hpushed _ => hpushed.trans (leaves_runClassifier env S now r')

/-- From a buffer that holds a chunk with its context these samples are read, and none outside of it. -/
theorem range_rawAudio (hwindow : kMelChunkSamples + kMelContextSamples ≤ r.detector.rawAudioBuffer.length) :
    range r.detector.rawAudioBuffer
        ((r.detector.rawAudioBuffer.length : Int) - (kMelChunkSamples + kMelContextSamples : Nat))
        r.detector.rawAudioBuffer.length =
      some (keepLast (kMelChunkSamples + kMelContextSamples) r.detector.rawAudioBuffer) := by
  rw [← Int.ofNat_sub hwindow, range_eq _ (Nat.sub_le _ _) (Nat.le_refl _), keepLast_eq_drop, ← List.length_drop,
    List.take_length]

/-- The melspectrogram model is given the window of the samples; nothing else is done to them. -/
theorem leaves_processAccumulatedAudio
    (hwindow : kMelChunkSamples + kMelContextSamples ≤ r.detector.rawAudioBuffer.length)
    (hsize : r.detector.rawAudioBuffer.length < 2147483648) :
    Leaves (r.see (.melInput (keepLast (kMelChunkSamples + kMelContextSamples) r.detector.rawAudioBuffer)))
      (processAccumulatedAudio env S now r) := by
  unfold processAccumulatedAudio
  dsimp only
  rw [staticCastInt_of_lt hsize, if_neg (by omega), range_rawAudio hwindow]
  dsimp only [reading]
  split
  · exact (leaves_pushRows env _ _).trans ((leaves_trimRows _).trans (leaves_runEmbedding env S now _))
  · exact .refl _

/-! ## Frames -/

theorem trimRawAudio_eq (hsize : r.detector.rawAudioBuffer.length < 2147483648) :
    trimRawAudio r = r.modify fun d => { d with rawAudioBuffer := keepLast kMaxRawBufferSamples d.rawAudioBuffer } := by
  unfold trimRawAudio
  dsimp only
  rw [staticCastInt_of_lt hsize]
  split
  · have hlong : kMaxRawBufferSamples ≤ r.detector.rawAudioBuffer.length := by omega
    rw [← Int.ofNat_sub hlong, range_eq _ (Nat.sub_le _ _) (Nat.le_refl _), ← List.length_drop, List.take_length,
      ← keepLast_eq_drop]
    rfl
  · have hkept : keepLast kMaxRawBufferSamples r.detector.rawAudioBuffer = r.detector.rawAudioBuffer := if_neg (by omega)
    rw [modify, hkept]

end WakeRun

/-- Two bytes make a sample. -/
theorem length_pcmSamples (pcm : Bytes) : (pcmSamples pcm).length = pcm.length / 2 := by
  induction pcm using pcmSamples.induct with
  | case1 lo hi rest ih =>
    rw [pcmSamples, List.length_cons, ih, List.length_cons, List.length_cons]
    omega
  | case2 pcm h =>
    match pcm, h with
    | [], _ => simp [pcmSamples]
    | [_], _ => simp [pcmSamples]
    | lo :: hi :: rest, h => exact absurd rfl (h lo hi rest)

end PairionClient
