import PairionClient.Theorems.WakeWindows

/-!
# The rolling buffers of the wake word detector

Whatever the models return, the rows are 32 wide and no buffer grows beyond its limit. The embedding model is given the last 76
rows and the classifier the last 16 features, and every access is in range, as long as the number of values to copy from a
feature survives its `int`: a feature of `2 ^ 31` values is copied through a negative count.
-/

namespace PairionClient

open Blocks Checked Transition

namespace WakeRun

open OpenWakewordDetector

variable (env : Env) {r : WakeRun}

/-! ## The buffers -/

/-- The buffers are the windows of the rows and of the features. -/
structure Buffered (r : WakeRun) : Prop where
  mel : r.detector.melBuffer = keepLast kMelBufferMaxLen (rowsOf r.seen)
  width : ∀ row ∈ rowsOf r.seen, row.length = kMelFrameWidth
  features : r.detector.embFeatures = keepLast kFeatureBufferMaxLen (featuresOf r.seen)

theorem rowsOf_append (seen seen' : List WakeSeen) : rowsOf (seen ++ seen') = rowsOf seen ++ rowsOf seen' :=
  List.filterMap_append

theorem featuresOf_append (seen seen' : List WakeSeen) : featuresOf (seen ++ seen') = featuresOf seen ++ featuresOf seen' :=
  List.filterMap_append

/-- What is no row leaves the rows. -/
theorem rowsOf_see {x : WakeSeen} (hx : x.melRow? = none) (r : WakeRun) : rowsOf (r.see x).seen = rowsOf r.seen :=
  filterMap_see hx r

/-- What is no feature leaves the features. -/
theorem featuresOf_see {x : WakeSeen} (hx : x.feature? = none) (r : WakeRun) :
    featuresOf (r.see x).seen = featuresOf r.seen := filterMap_see hx r

/-- What is neither a row nor a feature. -/
theorem Buffered.see (h : Buffered r) {x : WakeSeen} (hrow : x.melRow? = none) (hfeature : x.feature? = none) :
    Buffered (r.see x) := by
  refine ⟨?_, ?_, ?_⟩
  · rw [rowsOf_see hrow]
    exact h.mel
  · rw [rowsOf_see hrow]
    exact h.width
  · rw [featuresOf_see hfeature]
    exact h.features

/-- A checked read leaves the buffers, within range or not. -/
theorem Buffered.reading (h : Buffered r) {read : Option (List ℚ)} {next : List ℚ → WakeRun}
    (hnext : ∀ input, Buffered (next input)) : Buffered (r.reading read next) := by
  cases read with
  | none => exact h.see rfl rfl
  | some input => exact hnext input

theorem rowsOf_map_melRow (rows : List (List ℚ)) : rowsOf (rows.map .melRow) = rows := by
  simp [rowsOf, List.filterMap_map, Function.comp_def, WakeSeen.melRow?]

/-- The loop over the output of the model sees the rows that it reads. -/
theorem rowsOf_trimRows (melData : List ℚ) (r : WakeRun) :
    rowsOf (r.pushRows env melData).trimRows.seen = rowsOf r.seen ++ rowsRead env melData := by
  rw [pushRows_eq]
  exact (rowsOf_append _ _).trans (congrArg _ (rowsOf_map_melRow _))

theorem featuresOf_trimRows (melData : List ℚ) (r : WakeRun) :
    featuresOf (r.pushRows env melData).trimRows.seen = featuresOf r.seen := filterMap_pushRows env (fun _ => rfl) melData r

/-- The rows appended and trimmed are the last of the rows seen. -/
theorem Buffered.pushRows (h : Buffered r) (melData : List ℚ) : Buffered (r.pushRows env melData).trimRows := by
  refine ⟨?_, ?_, ?_⟩
  · rw [rowsOf_trimRows, ← keepLast_append_keepLast, ← h.mel, pushRows_eq]
    rfl
  · rw [rowsOf_trimRows]
    intro row hrow
    rcases List.mem_append.1 hrow with hrow | hrow
    · exact h.width row hrow
    · exact length_of_mem_rowsRead env hrow
  · rw [featuresOf_trimRows, ← h.features, pushRows_eq]
    rfl

/-- A new feature is seen last. -/
theorem featuresOf_pushFeature (values : List ℚ) (r : WakeRun) :
    featuresOf (r.pushFeature values).seen = featuresOf r.seen ++ [values] := featuresOf_append _ _

theorem rowsOf_pushFeature (values : List ℚ) (r : WakeRun) : rowsOf (r.pushFeature values).seen = rowsOf r.seen :=
  (rowsOf_append _ _).trans (List.append_nil _)

/-- The features appended and trimmed are the last of the features seen. -/
theorem Buffered.pushFeature (h : Buffered r) (values : List ℚ) : Buffered (r.pushFeature values) := by
  refine ⟨?_, ?_, ?_⟩
  · rw [rowsOf_pushFeature]
    exact h.mel
  · rw [rowsOf_pushFeature]
    exact h.width
  · rw [featuresOf_pushFeature, ← keepLast_append_keepLast, ← h.features]
    rfl

/-- A change of other parts leaves the buffers. -/
theorem Buffered.modify (h : Buffered r) {f : OpenWakewordDetector → OpenWakewordDetector}
    (hmel : ∀ d, (f d).melBuffer = d.melBuffer) (hfeatures : ∀ d, (f d).embFeatures = d.embFeatures) : Buffered (r.modify f) :=
  ⟨(hmel _).trans h.mel, h.width, (hfeatures _).trans h.features⟩

variable (S : WakeSessions) (now : Nat)

/-- A detection leaves the buffers. -/
theorem Buffered.detect (h : Buffered r) (score : ℚ) : Buffered (r.detect now score) := by
  have hmodified :=
    h.modify (f := fun d => { d with suppressionActive := true, suppressionTimer := now }) (fun _ => rfl) fun _ => rfl
  exact hmodified.see rfl rfl

/-- The classifier stage keeps the buffers the last of what was seen. -/
theorem Buffered.runClassifier (h : Buffered r) : Buffered (runClassifier env S now r) :=
  runClassifier_rule env S now (fun _ => h.see rfl rfl) (fun _ _ => h.see rfl rfl) fun _ score hinput => hinput.detect now score

/-- The embedding stage keeps the buffers as well. -/
theorem Buffered.runEmbedding (h : Buffered r) : Buffered (runEmbedding env S now r) :=
  runEmbedding_rule env S now h (fun _ _ => h.see rfl rfl) (fun _ _ _ => h.see rfl rfl)
    (fun _ feat _ _ hinput => hinput.pushFeature feat) fun _ hpushed _ => hpushed.runClassifier env S now

/-- All stages together keep the buffers. -/
theorem Buffered.processAccumulatedAudio (h : Buffered r) : Buffered (processAccumulatedAudio env S now r) := by
  unfold WakeRun.processAccumulatedAudio
  dsimp only
  split
  · exact h
  · refine h.reading ?_
    intro input
    have hinput : Buffered (r.see (.melInput input)) := h.see rfl rfl
    split
    · exact (hinput.pushRows env _).runEmbedding env S now
    · exact hinput

/-- The call that runs them when a chunk has accumulated keeps the buffers. -/
theorem Buffered.processWhenFull (h : Buffered r) : Buffered (processWhenFull env S now r) := by
  unfold WakeRun.processWhenFull
  split
  · exact (h.processAccumulatedAudio env S now).modify (fun _ => rfl) fun _ => rfl
  · exact h

/-! ## The inputs -/

/-- What is seen is as it should be, after what was seen before: the last 76 rows one after the other, the last 16
features each cut or padded with zeros to 96 values, and no access out of range. -/
def Shown (before : List WakeSeen) : WakeSeen → Prop
  | .embeddingInput input => 76 ≤ (rowsOf before).length ∧ input = (keepLast 76 (rowsOf before)).flatten ∧ input.length = 2432
  | .classifierInput input =>
    16 ≤ (featuresOf before).length ∧
      input = (keepLast 16 (featuresOf before)).flatMap (fun feat => (feat ++ List.replicate 96 0).take 96) ∧
      input.length = 1536
  | .outOfRange => False
  | _ => True

def AllShown (seen : List WakeSeen) : Prop := ∀ before x, before ++ [x] <+: seen → Shown before x

theorem allShown_nil : AllShown [] := fun before x h => absurd (List.prefix_nil.1 h) (by simp)

/-- One more input that is as it should be. -/
theorem AllShown.concat {seen : List WakeSeen} {x : WakeSeen} (h : AllShown seen) (hx : Shown seen x) :
    AllShown (seen ++ [x]) := by
  intro before y hprefix
  rcases List.prefix_concat_iff.1 hprefix with heq | hprefix
  · obtain ⟨rfl, hy⟩ := List.append_inj' heq rfl
    obtain rfl := List.singleton_inj.1 hy
    exact hx
  · exact h before y hprefix

/-- The first tensor of the embedding model has a size that copying can handle. -/
def SizesFit (S : WakeSessions) : Prop := ∀ input feat rest, S.embedding input = feat :: rest → Fits feat

/-- The buffers, with every input as it should be. -/
structure Sound (r : WakeRun) : Prop extends Buffered r where
  fits : ∀ feat ∈ featuresOf r.seen, Fits feat
  shown : AllShown r.seen

/-- To see an input that is as it should be keeps the run sound. -/
theorem Sound.see (h : Sound r) {x : WakeSeen} (hx : Shown r.seen x) (hrow : x.melRow? = none) (hfeature : x.feature? = none) :
    Sound (r.see x) := by
  refine ⟨h.toBuffered.see hrow hfeature, ?_, h.shown.concat hx⟩
  rw [featuresOf_see hfeature]
  exact h.fits

/-- A change of other parts keeps the run sound. -/
theorem Sound.modify (h : Sound r) {f : OpenWakewordDetector → OpenWakewordDetector}
    (hmel : ∀ d, (f d).melBuffer = d.melBuffer) (hfeatures : ∀ d, (f d).embFeatures = d.embFeatures) : Sound (r.modify f) :=
  ⟨h.toBuffered.modify hmel hfeatures, h.fits, h.shown⟩

/-- Rows are as they should be. -/
theorem AllShown.rows {seen : List WakeSeen} (h : AllShown seen) (rows : List (List ℚ)) :
    AllShown (seen ++ rows.map .melRow) := by
  induction rows using List.reverseRecOn with
  | nil => simpa using h
  | append_singleton rows row ih =>
    rw [List.map_append, ← List.append_assoc]
    exact ih.concat trivial

/-- New rows keep the run sound. -/
theorem Sound.pushRows (h : Sound r) (melData : List ℚ) : Sound (r.pushRows env melData).trimRows := by
  refine ⟨h.toBuffered.pushRows env melData, ?_, ?_⟩
  · rw [featuresOf_trimRows]
    exact h.fits
  · rw [pushRows_eq]
    exact h.shown.rows _

/-- A feature that fits keeps the run sound. -/
theorem Sound.pushFeature (h : Sound r) {feat : List ℚ} (hfit : Fits feat) : Sound (r.pushFeature feat) := by
  refine ⟨h.toBuffered.pushFeature feat, ?_, h.shown.concat trivial⟩
  rw [featuresOf_pushFeature]
  intro other hother
  rcases List.mem_append.1 hother with hother | hother
  · exact h.fits other hother
  · exact List.mem_singleton.1 hother ▸ hfit

/-- The mel buffer has at most 200 rows. -/
theorem Buffered.length_mel (h : Buffered r) : r.detector.melBuffer.length ≤ 200 := by
  rw [h.mel, length_keepLast]
  exact Nat.min_le_left _ _

/-- The feature buffer has at most 120 features. -/
theorem Buffered.length_features (h : Buffered r) : r.detector.embFeatures.length ≤ 120 := by
  rw [h.features, length_keepLast]
  exact Nat.min_le_left _ _

/-- Every row of the mel buffer has 32 values. -/
theorem Buffered.width_mel (h : Buffered r) : ∀ row ∈ r.detector.melBuffer, row.length = 32 := by
  intro row hrow
  rw [h.mel] at hrow
  exact h.width row (mem_of_mem_keepLast hrow)

/-- The embedding model's input. -/
theorem Buffered.embInput_eq (h : Buffered r) (hneeded : 76 ≤ r.detector.melBuffer.length) :
    embInput r.detector.melBuffer = some (keepLast kMelFramesNeeded r.detector.melBuffer).flatten := by
  have hsize := h.length_mel
  exact WakeRun.embInput_eq hneeded (by omega) h.width_mel

/-- With 76 rows the input of the embedding model is as it should be. -/
theorem Buffered.shown_embInput (h : Buffered r) (hneeded : 76 ≤ r.detector.melBuffer.length) :
    Shown r.seen (.embeddingInput (keepLast kMelFramesNeeded r.detector.melBuffer).flatten) := by
  refine ⟨?_, ?_, ?_⟩
  · rw [h.mel, length_keepLast] at hneeded
    omega
  · rw [h.mel]
    exact congrArg List.flatten (keepLast_keepLast (by decide) _)
  · rw [length_flatten_of_blocks fun row hrow => h.width_mel row (mem_of_mem_keepLast hrow), length_keepLast]
    unfold kMelFramesNeeded
    omega

/-- A feature that is cut or padded has 96 values. -/
theorem take_append_zeros (feat : List ℚ) :
    feat.take kEmbFeatureSize ++ List.replicate (kEmbFeatureSize - feat.length) 0 = (feat ++ List.replicate 96 0).take 96 := by
  rw [List.take_append, List.take_replicate]
  congr 2
  unfold kEmbFeatureSize
  omega

/-- The classifier's input. -/
theorem Sound.clsInput_eq (h : Sound r) (hneeded : 16 ≤ r.detector.embFeatures.length) :
    clsInput r.detector.embFeatures = some (classifierInput r.detector.embFeatures) := by
  have hsize := h.length_features
  have hfits : ∀ feat ∈ r.detector.embFeatures, Fits feat := by
    intro feat hfeat
    rw [h.features] at hfeat
    exact h.fits feat (mem_of_mem_keepLast hfeat)
  exact WakeRun.clsInput_eq hneeded (by omega) hfits

/-- With 16 features the input of the classifier is as it should be. -/
theorem Buffered.shown_clsInput (h : Buffered r) (hneeded : 16 ≤ r.detector.embFeatures.length) :
    Shown r.seen (.classifierInput (classifierInput r.detector.embFeatures)) := by
  have hinput : classifierInput r.detector.embFeatures =
      (keepLast 16 (featuresOf r.seen)).flatMap fun feat => (feat ++ List.replicate 96 0).take 96 := by
    rw [classifierInput, h.features]
    exact (congrArg _ (keepLast_keepLast (by decide) _)).trans (List.flatMap_congr fun feat _ => take_append_zeros feat)
  have hmany : 16 ≤ (featuresOf r.seen).length := by
    rw [h.features, length_keepLast] at hneeded
    omega
  refine ⟨hmany, hinput, ?_⟩
  have hblocks : ∀ block ∈ (keepLast 16 (featuresOf r.seen)).map fun feat => (feat ++ List.replicate 96 0).take 96,
      block.length = 96 := by
    intro block hblock
    obtain ⟨feat, -, rfl⟩ := List.mem_map.1 hblock
    rw [List.length_take, List.length_append, List.length_replicate]
    omega
  rw [hinput, List.flatMap_def, length_flatten_of_blocks hblocks, List.length_map, length_keepLast, Nat.min_eq_left hmany]

/-- A detection keeps the run sound. -/
theorem Sound.detect (h : Sound r) (score : ℚ) : Sound (r.detect now score) := by
  have hmodified :=
    h.modify (f := fun d => { d with suppressionActive := true, suppressionTimer := now }) (fun _ => rfl) fun _ => rfl
  exact hmodified.see trivial rfl rfl

/-- With 16 features the classifier stage keeps the run sound. -/
theorem Sound.runClassifier (h : Sound r) (hneeded : 16 ≤ r.detector.embFeatures.length) :
    Sound (runClassifier env S now r) := by
  have hread := h.clsInput_eq hneeded
  refine runClassifier_rule env S now (fun hnone => ?_) (fun input hsome => ?_) fun input score hinput => hinput.detect now score
  · rw [hread] at hnone
    exact absurd hnone (Option.some_ne_none _)
  · obtain rfl := Option.some.inj (hread.symm.trans hsome)
    exact h.see (h.shown_clsInput hneeded) rfl rfl

/-- Models whose features fit keep the run sound in the embedding stage. -/
theorem Sound.runEmbedding (h : Sound r) (hS : SizesFit S) : Sound (runEmbedding env S now r) := by
  have hsize := h.length_mel
  have hread : kMelFramesNeeded ≤ staticCastInt r.detector.melBuffer.length →
      76 ≤ r.detector.melBuffer.length ∧
        embInput r.detector.melBuffer = some (keepLast kMelFramesNeeded r.detector.melBuffer).flatten := by
    intro hneeded
    rw [staticCastInt_of_lt (by omega)] at hneeded
    have hrows : 76 ≤ r.detector.melBuffer.length := Int.ofNat_le.1 hneeded
    exact ⟨hrows, h.embInput_eq hrows⟩
  refine runEmbedding_rule env S now h (fun hneeded hnone => ?_) (fun input hneeded hsome => ?_)
    (fun input feat rest houtput hinput => hinput.pushFeature (hS input feat rest houtput)) fun r' hpushed hmany => ?_
  · rw [(hread hneeded).2] at hnone
    exact absurd hnone (Option.some_ne_none _)
  · obtain ⟨hrows, heq⟩ := hread hneeded
    obtain rfl := Option.some.inj (heq.symm.trans hsome)
    exact h.see (h.shown_embInput hrows) rfl rfl
  · have hfew := hpushed.length_features
    rw [staticCastInt_of_lt (by omega)] at hmany
    exact hpushed.runClassifier env S now (Int.ofNat_le.1 hmany)

theorem Sound.processAccumulatedAudio (h : Sound r) (hS : SizesFit S)
    (hwindow : kMelChunkSamples + kMelContextSamples ≤ r.detector.rawAudioBuffer.length)
    (hsize : r.detector.rawAudioBuffer.length < 2147483648) : Sound (processAccumulatedAudio env S now r) := by
  unfold WakeRun.processAccumulatedAudio
  dsimp only
  rw [staticCastInt_of_lt hsize, if_neg (by omega), range_rawAudio hwindow]
  dsimp only [WakeRun.reading]
  have hinput : Sound (r.see (.melInput (keepLast (kMelChunkSamples + kMelContextSamples) r.detector.rawAudioBuffer))) :=
    h.see trivial rfl rfl
  split
  · exact (hinput.pushRows env _).runEmbedding env S now hS
  · exact hinput

theorem Sound.processWhenFull (h : Sound r) (hS : SizesFit S)
    (hwindow : kMelChunkSamples ≤ r.detector.accumulatedSamples →
      kMelChunkSamples + kMelContextSamples ≤ r.detector.rawAudioBuffer.length)
    (hsize : r.detector.rawAudioBuffer.length < 2147483648) : Sound (processWhenFull env S now r) := by
  unfold WakeRun.processWhenFull
  split
  · rename_i hfull
    exact (h.processAccumulatedAudio env S now hS (hwindow hfull) hsize).modify (fun _ => rfl) fun _ => rfl
  · exact h

/-! ## Runs -/

variable {before : List (List ℚ)} {zeros : Nat} {calls : List WakeCall} {threshold : ℚ} {turns : Option (Nat → WakeTurn)}

/-- When a chunk has accumulated, the buffer holds it with its context. -/
theorem Windowed.full (h : Windowed before zeros calls r) (hzeros : 480 ≤ zeros) (call : WakeCall) :
    let r' := r.modify (appendPcm call.frame.1)
    kMelChunkSamples ≤ r'.detector.accumulatedSamples →
      kMelChunkSamples + kMelContextSamples ≤ r'.detector.rawAudioBuffer.length := by
  intro r' hfull
  obtain ⟨hrecent, -, haccumulated, -⟩ := h.append call
  refine window_of_recent hrecent ?_
  rw [haccumulated] at hfull
  rw [length_samplesOf, List.length_append, List.length_singleton]
  unfold kMelChunkSamples at hfull
  omega

/-- Every frame keeps the buffers. -/
theorem Buffered.step (h : Buffered r) (call : WakeCall) : Buffered (step env r call) := by
  have happended := h.modify (f := appendPcm call.frame.1) (fun _ => rfl) fun _ => rfl
  have hprocessed := happended.processWhenFull env call.sessions call.now
  rw [WakeRun.step, processPcmFrame, trimRawAudio]
  split
  · exact hprocessed.reading fun rest => hprocessed.modify (fun _ => rfl) fun _ => rfl
  · exact hprocessed

/-- Every frame keeps the run sound, if the features fit. -/
theorem Sound.step (h : Sound r) (hwindowed : Windowed before zeros calls r) (hzeros : 480 ≤ zeros) {call : WakeCall}
    (hS : SizesFit call.sessions) : Sound (step env r call) := by
  have happended := h.modify (f := appendPcm call.frame.1) (fun _ => rfl) fun _ => rfl
  obtain ⟨-, hsize, -, -⟩ := hwindowed.append call
  obtain ⟨-, hsize', -, -⟩ := hwindowed.processed env hzeros call
  have hprocessed := happended.processWhenFull env call.sessions call.now hS (hwindowed.full hzeros call) (by omega)
  rw [WakeRun.step, processPcmFrame, trimRawAudio_eq (by omega)]
  exact hprocessed.modify (fun _ => rfl) fun _ => rfl

/-- A new detector has seen nothing. -/
theorem buffered_create (threshold : ℚ) : Buffered { detector := { threshold } } := ⟨rfl, by simp [rowsOf], rfl⟩

/-- Nothing that a new detector has seen is out of range. -/
theorem sound_create (threshold : ℚ) : Sound { detector := { threshold } } :=
  ⟨buffered_create threshold, by simp [featuresOf], allShown_nil⟩

/-- The warm-up keeps the buffers the last of what was seen. -/
theorem buffered_start (env : Env) (threshold : ℚ) (turns : Option (Nat → WakeTurn)) : Buffered (start env threshold turns) := by
  cases turns with
  | none => exact buffered_create threshold
  | some turns =>
    rw [start, warmup]
    refine List.foldlRecOn _ _ (buffered_create threshold) ?_
    intro r h i _
    have hpushed := h.modify (f := pushSilence) (fun _ => rfl) fun _ => rfl
    exact (hpushed.processAccumulatedAudio env _ _).modify (fun _ => rfl) fun _ => rfl

/-- What the sessions return during the warm-up has sizes that copying can handle. -/
def WarmupFits (turns : Option (Nat → WakeTurn)) : Prop := ∀ turns' ∈ turns, ∀ i < warmupChunks, SizesFit (turns' i).sessions

/-- Every chunk of the warm-up keeps the run sound. -/
theorem sound_warmup {turns : Nat → WakeTurn} (hturns : ∀ i < warmupChunks, SizesFit (turns i).sessions) (threshold : ℚ)
    (n : Nat) (hn : n ≤ warmupChunks) :
    Sound ((List.range n).foldl (fun r i => warmupChunk env (turns i).sessions (turns i).now r)
      { detector := { threshold } }) := by
  induction n with
  | zero => exact sound_create threshold
  | succ n ih =>
    have hraw := (warmup_zeros env (r := { detector := { threshold } }) turns n (by omega) rfl rfl rfl).1
    have hchunks : warmupChunks = 27 := rfl
    rw [List.range_succ, List.foldl_append, List.foldl_cons, List.foldl_nil, warmupChunk]
    have hpushed := (ih (by omega)).modify (f := pushSilence) (fun _ => rfl) fun _ => rfl
    generalize (List.range n).foldl (fun r i => warmupChunk env (turns i).sessions (turns i).now r) _ = r at hraw hpushed ⊢
    have hlength : (r.modify pushSilence).detector.rawAudioBuffer.length = 480 + 1280 * n + 1280 := by
      rw [WakeRun.modify, pushSilence, List.length_append, hraw, List.length_replicate, List.length_replicate]
      rfl
    have hwindow : kMelChunkSamples + kMelContextSamples ≤ (r.modify pushSilence).detector.rawAudioBuffer.length := by
      rw [hlength]
      unfold kMelChunkSamples kMelContextSamples
      omega
    have hprocessed := hpushed.processAccumulatedAudio env (turns n).sessions (turns n).now (hturns n (by omega))
      hwindow (by omega)
    exact hprocessed.modify (fun _ => rfl) fun _ => rfl

theorem sound_start (env : Env) (threshold : ℚ) (hturns : WarmupFits turns) : Sound (start env threshold turns) := by
  cases turns with
  | none => exact sound_create threshold
  | some turns =>
    rw [start, warmup]
    exact sound_warmup env (hturns turns rfl) threshold warmupChunks (Nat.le_refl _)

/-- Over every run the buffers are the last of what was seen. -/
theorem buffered_run (env : Env) (threshold : ℚ) (turns : Option (Nat → WakeTurn)) (calls : List WakeCall) :
    Buffered (run (step env) (start env threshold turns) calls) :=
  inv_run_of_step Buffered (fun _ call h => h.step env call) calls (buffered_start env threshold turns)

/-- Over every run whose features fit every input is as it should be. -/
theorem sound_run (env : Env) (threshold : ℚ) (hturns : WarmupFits turns) (hcalls : ∀ call ∈ calls, SizesFit call.sessions) :
    Sound (run (step env) (start env threshold turns) calls) := by
  induction calls using List.reverseRecOn with
  | nil => exact sound_start env threshold hturns
  | append_singleton calls call ih =>
    obtain ⟨zeros, hzeros, hwindowed⟩ := windowed_run env threshold turns calls
    rw [run_concat]
    have hsound := ih fun other hother => hcalls other (List.mem_append_left _ hother)
    exact hsound.step env hwindowed hzeros (hcalls call (List.mem_append_right _ (List.mem_singleton_self call)))

/-- After every frame, whatever the models returned, every row is 32 wide and no buffer is beyond its limit; and when
every feature had a size that copying can handle, every input was as it should be and no access was out of range. -/
theorem buffers_within (env : Env) (threshold : ℚ) (turns : Option (Nat → WakeTurn)) (calls : List WakeCall) (call : WakeCall) :
    let r := run (step env) (start env threshold turns) (calls ++ [call])
    (∀ row ∈ r.detector.melBuffer, row.length = 32) ∧ r.detector.melBuffer.length ≤ 200 ∧
      r.detector.embFeatures.length ≤ 120 ∧ r.detector.rawAudioBuffer.length ≤ 32000 ∧
      (WarmupFits turns → (∀ made ∈ calls ++ [call], SizesFit made.sessions) → AllShown r.seen) := by
  intro r
  have hbuffered : Buffered r := buffered_run env threshold turns _
  refine ⟨hbuffered.width_mel, hbuffered.length_mel, hbuffered.length_features, ?_, fun hturns hcalls =>
    (sound_run env threshold hturns hcalls).shown⟩
  obtain ⟨zeros, hzeros, hwindowed⟩ := windowed_run env threshold turns calls
  obtain ⟨-, hsize, -⟩ := hwindowed.processed env hzeros call
  have hlast : r = step env (run (step env) (start env threshold turns) calls) call := run_concat _ _ _ _
  rw [hlast, WakeRun.step, processPcmFrame, trimRawAudio_eq (by omega)]
  exact (length_keepLast _ _).trans_le (Nat.min_le_left _ _)

/-! ## A feature that is too large -/

/-- Sessions that return eight rows, this feature, and no score. -/
def steady (feat : List ℚ) : WakeSessions where
  mel _ := [0 :: List.replicate 255 0]
  embedding _ := [feat]
  classifier _ := []

variable {feat : List ℚ}

/-- The steady model gives eight rows. -/
theorem length_rowsRead_steady : (rowsRead env (0 :: List.replicate 255 0)).length = 8 := by
  have hcast : (staticCastInt (List.replicate 256 (0 : ℚ)).length).toNat = 256 := by
    rw [List.length_replicate]
    decide
  rw [← List.replicate_succ, rowsRead, hcast, List.take_replicate, melRows, List.length_map, List.length_range,
    List.length_replicate]
  decide

/-- The classifier is given its input, or an access is out of range. -/
theorem runClassifier_steady (r : WakeRun) :
    ∃ x, runClassifier env (steady feat) now r = r.see x ∧ x.melRow? = none ∧ x.feature? = none ∧
      (clsInput r.detector.embFeatures = none → x = .outOfRange) := by
  rw [runClassifier]
  cases WakeRun.clsInput r.detector.embFeatures with
  | none => exact ⟨.outOfRange, rfl, rfl, rfl, fun _ => rfl⟩
  | some input => exact ⟨.classifierInput input, rfl, rfl, rfl, fun hnone => absurd hnone (Option.some_ne_none input)⟩

/-- With steady models the embedding stage sees a feature once there are 76 rows; the sixteenth, if it is too large, is
copied out of range. -/
theorem runEmbedding_steady (h : Buffered r) (hfeat : feat ≠ []) :
    let r' := runEmbedding env (steady feat) now r
    rowsOf r'.seen = rowsOf r.seen ∧
      (featuresOf r'.seen).length = (featuresOf r.seen).length + (if 76 ≤ (rowsOf r.seen).length then 1 else 0) ∧
      (76 ≤ (rowsOf r.seen).length → 15 ≤ (featuresOf r.seen).length → staticCastInt feat.length < 0 →
        .outOfRange ∈ r'.seen) := by
  have hmel : r.detector.melBuffer.length = min 200 (rowsOf r.seen).length := by
    rw [h.mel, length_keepLast]
    rfl
  obtain ⟨f, fs, rfl⟩ := List.exists_cons_of_ne_nil hfeat
  dsimp only
  rw [runEmbedding, staticCastInt_of_lt (by omega)]
  by_cases hneeded : 76 ≤ (rowsOf r.seen).length
  · have hread := h.embInput_eq (by omega)
    generalize (keepLast kMelFramesNeeded r.detector.melBuffer).flatten = input at hread
    have hfeature : Buffered ((r.see (.embeddingInput input)).pushFeature (f :: fs)) := (h.see rfl rfl).pushFeature _
    have hrows : rowsOf ((r.see (.embeddingInput input)).pushFeature (f :: fs)).seen = rowsOf r.seen :=
      (rowsOf_pushFeature _ _).trans (rowsOf_see rfl r)
    have hfeatures : featuresOf ((r.see (.embeddingInput input)).pushFeature (f :: fs)).seen = featuresOf r.seen ++ [f :: fs] :=
      (featuresOf_pushFeature _ _).trans (congrArg (· ++ [f :: fs]) (featuresOf_see rfl r))
    have houtput : (steady (f :: fs)).embedding input = [f :: fs] := rfl
    rw [if_neg (by unfold kMelFramesNeeded; omega), hread, if_pos hneeded]
    dsimp only [WakeRun.reading]
    rw [houtput]
    dsimp only
    generalize (r.see (.embeddingInput input)).pushFeature (f :: fs) = r₁ at hfeature hrows hfeatures ⊢
    have hlength : r₁.detector.embFeatures.length = min 120 ((featuresOf r.seen).length + 1) := by
      rw [hfeature.features, length_keepLast, hfeatures, List.length_append]
      rfl
    rw [staticCastInt_of_lt (by omega)]
    by_cases hmany : 15 ≤ (featuresOf r.seen).length
    · obtain ⟨x, heq, hrow, hnotFeature, hnone⟩ := runClassifier_steady env now r₁
      have hlast : f :: fs ∈ keepLast kEmbFeaturesNeeded r₁.detector.embFeatures := by
        rw [hfeature.features, keepLast_keepLast (by decide), hfeatures]
        exact mem_keepLast_concat (by decide) _ _
      rw [if_neg (by unfold kEmbFeaturesNeeded; omega), heq, rowsOf_see hrow, featuresOf_see hnotFeature, hfeatures]
      refine ⟨hrows, List.length_append, fun _ _ hnegative => ?_⟩
      rw [hnone (clsInput_eq_none (by unfold kEmbFeaturesNeeded; omega) (by omega) hlast hnegative)]
      exact List.mem_append_right _ (List.mem_singleton_self _)
    · rw [if_pos (by unfold kEmbFeaturesNeeded; omega), hfeatures]
      exact ⟨hrows, List.length_append, fun _ h => absurd h hmany⟩
  · rw [if_pos (by unfold kMelFramesNeeded; omega), if_neg hneeded]
    exact ⟨rfl, rfl, fun h => absurd h hneeded⟩

/-- A chunk adds eight rows, and a feature once there are enough of them. -/
theorem processAccumulatedAudio_steady (h : Buffered r) (hfeat : feat ≠ [])
    (hwindow : kMelChunkSamples + kMelContextSamples ≤ r.detector.rawAudioBuffer.length)
    (hsize : r.detector.rawAudioBuffer.length < 2147483648) :
    let r' := processAccumulatedAudio env (steady feat) now r
    (rowsOf r'.seen).length = (rowsOf r.seen).length + 8 ∧
      (featuresOf r'.seen).length = (featuresOf r.seen).length + (if 76 ≤ (rowsOf r.seen).length + 8 then 1 else 0) ∧
      (76 ≤ (rowsOf r.seen).length + 8 → 15 ≤ (featuresOf r.seen).length → staticCastInt feat.length < 0 →
        .outOfRange ∈ r'.seen) := by
  dsimp only
  rw [processAccumulatedAudio]
  dsimp only
  rw [staticCastInt_of_lt hsize, if_neg (by omega), range_rawAudio hwindow]
  generalize keepLast (kMelChunkSamples + kMelContextSamples) r.detector.rawAudioBuffer = input
  have houtput : (steady feat).mel input = [0 :: List.replicate 255 0] := rfl
  have hpushed : Buffered ((r.see (.melInput input)).pushRows env (0 :: List.replicate 255 0)).trimRows :=
    (h.see rfl rfl).pushRows env _
  have hrows : (rowsOf ((r.see (.melInput input)).pushRows env (0 :: List.replicate 255 0)).trimRows.seen).length =
      (rowsOf r.seen).length + 8 := by
    rw [rowsOf_trimRows, List.length_append, length_rowsRead_steady, rowsOf_see rfl]
  have hfeatures : featuresOf ((r.see (.melInput input)).pushRows env (0 :: List.replicate 255 0)).trimRows.seen =
      featuresOf r.seen := by
    rw [featuresOf_trimRows, featuresOf_see rfl]
  dsimp only [WakeRun.reading]
  rw [houtput]
  dsimp only
  have hembedding := runEmbedding_steady env now hpushed hfeat
  rw [hrows, hfeatures] at hembedding
  obtain ⟨hsame, hmany, hout⟩ := hembedding
  exact ⟨(congrArg List.length hsame).trans hrows, hmany, hout⟩

/-- How many rows and features there are after `n` frames. -/
structure Filled (n : Nat) (r : WakeRun) : Prop extends Buffered r where
  rows : (rowsOf r.seen).length = 8 * (n / 4)
  many : (featuresOf r.seen).length = n / 4 - 9

/-- Four frames bring eight rows, and a feature once there are rows enough. -/
theorem Filled.step (h : Filled calls.length r) (hwindowed : Windowed before zeros calls r) (hzeros : 480 ≤ zeros)
    (hfeat : feat ≠ []) {call : WakeCall} (hcall : call.sessions = steady feat) :
    Filled (calls.length + 1) (step env r call) ∧
      (calls.length % 4 = 3 → 96 ≤ calls.length → staticCastInt feat.length < 0 → .outOfRange ∈ (step env r call).seen) := by
  have hbuffered := h.toBuffered.step env call
  obtain ⟨-, hsize, haccumulated, -⟩ := hwindowed.append call
  obtain ⟨-, hsize', -⟩ := hwindowed.processed env hzeros call
  have hfull := hwindowed.full hzeros call
  have happended := h.toBuffered.modify (f := appendPcm call.frame.1) (fun _ => rfl) fun _ => rfl
  have hrows : (rowsOf (r.modify (appendPcm call.frame.1)).seen).length = 8 * (calls.length / 4) := h.rows
  have hmany : (featuresOf (r.modify (appendPcm call.frame.1)).seen).length = calls.length / 4 - 9 := h.many
  have hseen : (WakeRun.step env r call).seen =
      (processWhenFull env call.sessions call.now (r.modify (appendPcm call.frame.1))).seen := by
    rw [WakeRun.step, processPcmFrame, trimRawAudio_eq (by omega)]
    rfl
  generalize r.modify (appendPcm call.frame.1) = r₁ at hsize haccumulated hfull happended hrows hmany hseen
  by_cases hlast : calls.length % 4 = 3
  · have hprocess : kMelChunkSamples ≤ r₁.detector.accumulatedSamples := by
      rw [haccumulated, hlast]
      decide
    obtain ⟨hrows', hmany', hout⟩ :=
      processAccumulatedAudio_steady env call.now happended hfeat (hfull hprocess) (by omega)
    rw [processWhenFull, if_pos hprocess, hcall] at hseen
    have hseen' : (WakeRun.step env r call).seen = (processAccumulatedAudio env (steady feat) call.now r₁).seen := hseen
    refine ⟨⟨hbuffered, ?_, ?_⟩, fun _ hlong hnegative => ?_⟩
    · rw [hseen', hrows', hrows]
      omega
    · rw [hseen', hmany', hrows, hmany]
      split <;> omega
    · rw [hseen']
      exact hout (by omega) (by omega) hnegative
  · have hwait : ¬r₁.detector.accumulatedSamples ≥ kMelChunkSamples := by
      rw [haccumulated]
      unfold kMelChunkSamples
      omega
    rw [processWhenFull, if_neg hwait] at hseen
    refine ⟨⟨hbuffered, ?_, ?_⟩, fun h => absurd h hlast⟩
    · rw [hseen, hrows]
      omega
    · rw [hseen, hmany]
      omega

theorem filled_run (threshold : ℚ) (hfeat : feat ≠ []) {call : WakeCall} (hcall : call.sessions = steady feat) (n : Nat) :
    Filled n (run (step env) (start env threshold none) (List.replicate n call)) := by
  induction n with
  | zero => exact ⟨buffered_create threshold, rfl, rfl⟩
  | succ n ih =>
    obtain ⟨zeros, hzeros, hwindowed⟩ := windowed_run env threshold none (List.replicate n call)
    have hlength : (List.replicate n call).length = n := List.length_replicate
    rw [List.replicate_succ', run_concat]
    have hnext := (Filled.step env (hlength.symm ▸ ih) hwindowed hzeros hfeat hcall).1
    rwa [hlength] at hnext

/-- After a hundred frames the sixteenth feature comes, and the classifier's input is copied out of range. -/
theorem outOfRange_run (threshold : ℚ) (hfeat : feat ≠ []) (hnegative : staticCastInt feat.length < 0) {call : WakeCall}
    (hcall : call.sessions = steady feat) :
    .outOfRange ∈ (run (step env) (start env threshold none) (List.replicate 100 call)).seen := by
  obtain ⟨zeros, hzeros, hwindowed⟩ := windowed_run env threshold none (List.replicate 99 call)
  have hlength : (List.replicate 99 call).length = 99 := List.length_replicate
  have hfilled := filled_run env threshold hfeat hcall 99
  rw [List.replicate_succ', run_concat]
  exact (Filled.step env (hlength.symm ▸ hfilled) hwindowed hzeros hfeat hcall).2 (by rw [hlength]) (by omega) hnegative

/-- A frame of silence, during which the sessions are steady. -/
def silence (feat : List ℚ) : WakeCall where
  sessions := steady feat
  now := 0
  frame := ⟨List.replicate kPcmFrameBytes 0, List.length_replicate⟩

/-- Features of one value: they are padded, and nothing is out of range. -/
theorem buffers_within_short :
    AllShown (run (step .silence) (start .silence (1 / 2) none) (List.replicate 99 (silence [0]) ++ [silence [0]])).seen := by
  obtain ⟨-, -, -, -, hshown⟩ := buffers_within .silence (1 / 2) none (List.replicate 99 (silence [0])) (silence [0])
  refine hshown (fun _ h => absurd h (Option.not_mem_none _)) ?_
  intro made hmade
  have hmade' : made = silence [0] := by
    rcases List.mem_append.1 hmade with hmany | hlast
    · exact (List.mem_replicate.1 hmany).2
    · exact List.mem_singleton.1 hlast
  intro input feat rest houtput
  rw [hmade'] at houtput
  obtain rfl : [0] = feat := (List.cons.inj houtput).1
  exact fits_of_lt (by decide)

/-- A feature of `2 ^ 31` values: the classifier's input is copied out of range. -/
theorem buffers_within_false :
    ¬AllShown (run (step .silence) (start .silence (1 / 2) none)
      (List.replicate 100 (silence (List.replicate 2147483648 0)))).seen := by
  intro h
  have hnegative : staticCastInt (List.replicate 2147483648 (0 : ℚ)).length < 0 := by
    rw [List.length_replicate]
    decide
  have hmem := outOfRange_run .silence (1 / 2) (List.cons_ne_nil _ _) hnegative
    (rfl : (silence (List.replicate 2147483648 0)).sessions = _)
  obtain ⟨before, after, hsplit⟩ := List.append_of_mem hmem
  rw [hsplit] at h
  exact h before .outOfRange ⟨after, by simp⟩

end WakeRun

end PairionClient
