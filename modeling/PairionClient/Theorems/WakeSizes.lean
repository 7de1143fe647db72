import PairionClient.Theorems.WakeBuffers

/-!
# The wake word detector and its sizes

`Wake/WakewordDetector` keeps the sizes as they are, `Wake/WakewordAccesses` passes them through `int`. While the outputs of the
models have sizes that an `int` can hold the two agree, over every run: the same buffers, and the same announcements in the same
order.
-/

namespace PairionClient

open Blocks Checked Transition

namespace WakeRun

open OpenWakewordDetector

variable (env : Env) {r r' r'' : WakeRun}

theorem signalsOf_append (seen seen' : List WakeSeen) : signalsOf (seen ++ seen') = signalsOf seen ++ signalsOf seen' :=
  List.filterMap_append

/-- From `r` to `r'` the detector became what is said, and announced it. -/
def Did (r r' : WakeRun) (result : OpenWakewordDetector × List WakeSignal) : Prop :=
  r'.detector = result.1 ∧ signalsOf r'.seen = signalsOf r.seen ++ result.2

variable {result : OpenWakewordDetector × List WakeSignal}

/-- What announces nothing may come before. -/
theorem Did.after (h : Did r' r'' result) (hsignals : signalsOf r'.seen = signalsOf r.seen) : Did r r'' result :=
  ⟨h.1, h.2.trans (congrArg (· ++ _) hsignals)⟩

/-- Nothing was done, and nothing announced. -/
theorem did_nothing (r : WakeRun) : Did r r (r.detector, []) := ⟨rfl, (List.append_nil _).symm⟩

/-- A change of the detector announces nothing. -/
theorem Did.modify (h : Did r r' result) (f : OpenWakewordDetector → OpenWakewordDetector) :
    Did r (r'.modify f) (result.map f id) := ⟨congrArg f h.1, h.2⟩

/-- A new feature is no announcement. -/
theorem signalsOf_pushFeature (values : List ℚ) (r : WakeRun) : signalsOf (r.pushFeature values).seen = signalsOf r.seen :=
  filterMap_see (x := .feature values) rfl _

/-- New rows are no announcement. -/
theorem signalsOf_pushRows (melData : List ℚ) (r : WakeRun) :
    signalsOf (r.pushRows env melData).trimRows.seen = signalsOf r.seen := filterMap_pushRows env (fun _ => rfl) melData r

/-- The outputs of the melspectrogram model are small enough for an `int`. -/
def MelFits (S : WakeSessions) : Prop := ∀ input melData rest, S.mel input = melData :: rest → melData.length < 2147483648

/-- An output with a size that an `int` can hold is read in full. -/
theorem rowsRead_eq {melData : List ℚ} (h : melData.length < 2147483648) : rowsRead env melData = melRows env melData := by
  rw [rowsRead, staticCastInt_of_lt h, Int.toNat_natCast, List.take_length]

variable (S : WakeSessions) (now : Nat)

/-- A detection is announced, and begins the window. -/
theorem did_detect (score : ℚ) (r : WakeRun) :
    Did r (r.detect now score)
      ({ r.detector with suppressionActive := true, suppressionTimer := now }, [⟨score, r.detector.preRollBuffer⟩]) :=
  ⟨rfl, signalsOf_append _ _⟩

/-- With its inputs in range the classifier stage does what it does without `int`. -/
theorem did_runClassifier (h : Sound r) (hneeded : 16 ≤ r.detector.embFeatures.length) :
    Did r (runClassifier env S now r) (OpenWakewordDetector.runClassifier env S now r.detector) := by
  rw [WakeRun.runClassifier, h.clsInput_eq hneeded, OpenWakewordDetector.runClassifier]
  generalize classifierInput r.detector.embFeatures = input
  dsimp only [WakeRun.reading]
  have hdetector : (r.see (.classifierInput input)).detector = r.detector := rfl
  refine Did.after ?_ (filterMap_see (x := .classifierInput input) rfl r)
  rw [← hdetector]
  generalize r.see (.classifierInput input) = r₁
  cases S.classifier input with
  | nil => exact did_nothing r₁
  | cons scores rest =>
    cases scores with
    | nil => exact did_nothing r₁
    | cons score scores =>
      dsimp only
      split
      · exact did_nothing r₁
      · split
        · exact did_nothing r₁
        · exact did_detect now score r₁

/-- The embedding stage, which the source does not name. -/
theorem did_runEmbedding (h : Sound r) (hS : SizesFit S) {d : OpenWakewordDetector} (hd : r.detector = d) :
    Did r (runEmbedding env S now r)
      (if d.melBuffer.length < kMelFramesNeeded then (d, [])
      else
        match S.embedding (keepLast kMelFramesNeeded d.melBuffer).flatten with
        | (f :: fs) :: _ =>
          let d := { d with embFeatures := keepLast kFeatureBufferMaxLen (d.embFeatures ++ [f :: fs]) }
          if d.embFeatures.length < kEmbFeaturesNeeded then (d, []) else OpenWakewordDetector.runClassifier env S now d
        | _ => (d, [])) := by
  subst hd
  have hsize := h.length_mel
  rw [WakeRun.runEmbedding, staticCastInt_of_lt (by omega)]
  by_cases hfew : r.detector.melBuffer.length < kMelFramesNeeded
  · rw [if_pos hfew, if_pos (by omega)]
    exact did_nothing r
  · have hneeded : 76 ≤ r.detector.melBuffer.length := by
      unfold kMelFramesNeeded at hfew
      omega
    have hinput := h.see (h.shown_embInput hneeded) rfl rfl
    rw [if_neg hfew, if_neg (by omega), h.embInput_eq hneeded]
    generalize (keepLast kMelFramesNeeded r.detector.melBuffer).flatten = input at hinput ⊢
    dsimp only [WakeRun.reading]
    have hdetector : (r.see (.embeddingInput input)).detector = r.detector := rfl
    refine Did.after ?_ (filterMap_see (x := .embeddingInput input) rfl r)
    rw [← hdetector]
    generalize r.see (.embeddingInput input) = r₁ at hinput
    cases houtput : S.embedding input with
    | nil => exact did_nothing r₁
    | cons feat rest =>
      cases feat with
      | nil => exact did_nothing r₁
      | cons f fs =>
        have hfeature : Sound (r₁.pushFeature (f :: fs)) := hinput.pushFeature (hS input _ rest houtput)
        dsimp only
        refine Did.after ?_ (signalsOf_pushFeature (f :: fs) r₁)
        change Did (r₁.pushFeature (f :: fs)) _
          (if (r₁.pushFeature (f :: fs)).detector.embFeatures.length < kEmbFeaturesNeeded then
            ((r₁.pushFeature (f :: fs)).detector, [])
          else OpenWakewordDetector.runClassifier env S now (r₁.pushFeature (f :: fs)).detector)
        generalize r₁.pushFeature (f :: fs) = r₂ at hfeature ⊢
        rw [staticCastInt_of_lt (by have := hfeature.length_features; omega)]
        by_cases hmany : r₂.detector.embFeatures.length < kEmbFeaturesNeeded
        · rw [if_pos hmany, if_pos (by omega)]
          exact did_nothing r₂
        · rw [if_neg hmany, if_neg (by omega)]
          exact did_runClassifier env S now hfeature (by unfold kEmbFeaturesNeeded at hmany; omega)

theorem did_processAccumulatedAudio (h : Sound r) (hS : SizesFit S) (hmel : MelFits S)
    (hwindow : kMelChunkSamples + kMelContextSamples ≤ r.detector.rawAudioBuffer.length)
    (hsize : r.detector.rawAudioBuffer.length < 2147483648) :
    Did r (processAccumulatedAudio env S now r) (OpenWakewordDetector.processAccumulatedAudio env S now r.detector) := by
  rw [WakeRun.processAccumulatedAudio, OpenWakewordDetector.processAccumulatedAudio]
  dsimp only
  rw [staticCastInt_of_lt hsize, if_neg (by omega), range_rawAudio hwindow, if_neg (by omega)]
  generalize keepLast (kMelChunkSamples + kMelContextSamples) r.detector.rawAudioBuffer = input
  dsimp only [WakeRun.reading]
  have hinput : Sound (r.see (.melInput input)) := h.see trivial rfl rfl
  have hdetector : (r.see (.melInput input)).detector = r.detector := rfl
  refine Did.after ?_ (filterMap_see (x := .melInput input) rfl r)
  rw [← hdetector]
  generalize r.see (.melInput input) = r₁ at hinput
  cases houtput : S.mel input with
  | nil => exact did_nothing r₁
  | cons melData rest =>
    cases melData with
    | nil => exact did_nothing r₁
    | cons m ms =>
      have hpushed : (r₁.pushRows env (m :: ms)).trimRows.detector =
          { r₁.detector with melBuffer := keepLast kMelBufferMaxLen (r₁.detector.melBuffer ++ melRows env (m :: ms)) } := by
        rw [pushRows_eq, rowsRead_eq env (hmel input _ _ houtput)]
        rfl
      exact (did_runEmbedding env S now (hinput.pushRows env _) hS hpushed).after (signalsOf_pushRows env (m :: ms) r₁)

/-! ## Runs -/

variable {calls : List WakeCall}

/-- The detector that keeps the sizes as they are, and what it announced so far. -/
def plainStep (x : OpenWakewordDetector × List WakeSignal) (call : WakeCall) : OpenWakewordDetector × List WakeSignal :=
  let (d, signals) := OpenWakewordDetector.processPcmFrame env call.sessions call.now call.frame.1 x.1
  (d, x.2 ++ signals)

/-- What is kept of a run beside it. -/
def plain (r : WakeRun) : OpenWakewordDetector × List WakeSignal := (r.detector, signalsOf r.seen)

/-- What was done is what the detector without `int` would have done. -/
theorem plain_of_did (h : Did r r' result) : plain r' = (result.1, (plain r).2 ++ result.2) := Prod.ext h.1 h.2

variable {before : List (List ℚ)} {zeros : Nat}

/-- One frame. -/
theorem plain_step (h : Sound r) (hwindowed : Windowed before zeros calls r) (hzeros : 480 ≤ zeros) {call : WakeCall}
    (hS : SizesFit call.sessions) (hmel : MelFits call.sessions) : plain (step env r call) = plainStep env (plain r) call := by
  have happended := h.modify (f := appendPcm call.frame.1) (fun _ => rfl) fun _ => rfl
  have hfull := hwindowed.full hzeros call
  obtain ⟨-, hsize, -, -⟩ := hwindowed.append call
  obtain ⟨-, hsize', -, -⟩ := hwindowed.processed env hzeros call
  have hprocessed : Did r (WakeRun.processWhenFull env call.sessions call.now (r.modify (appendPcm call.frame.1)))
      (OpenWakewordDetector.processWhenFull env call.sessions call.now (appendPcm call.frame.1 r.detector)) := by
    have hsignals : signalsOf (r.modify (appendPcm call.frame.1)).seen = signalsOf r.seen := rfl
    refine Did.after ?_ hsignals
    have hdetector : (r.modify (appendPcm call.frame.1)).detector = appendPcm call.frame.1 r.detector := rfl
    rw [← hdetector, WakeRun.processWhenFull, OpenWakewordDetector.processWhenFull]
    generalize r.modify (appendPcm call.frame.1) = r₁ at happended hfull hsize
    by_cases hprocess : kMelChunkSamples ≤ r₁.detector.accumulatedSamples
    · rw [if_pos hprocess, if_pos hprocess]
      exact (did_processAccumulatedAudio env _ _ happended hS hmel (hfull hprocess) (by omega)).modify _
    · rw [if_neg hprocess, if_neg hprocess]
      exact did_nothing r₁
  rw [WakeRun.step, WakeRun.processPcmFrame, trimRawAudio_eq (by omega)]
  exact plain_of_did (hprocessed.modify OpenWakewordDetector.trimRawAudio)

/-- While every output has a size that an `int` holds, the detector at work is the detector of `Wake/WakewordDetector`. -/
theorem plain_run (threshold : ℚ) {turns : Option (Nat → WakeTurn)} (hturns : WarmupFits turns)
    (hcalls : ∀ call ∈ calls, SizesFit call.sessions ∧ MelFits call.sessions) :
    plain (run (step env) (start env threshold turns) calls) = run (plainStep env) (plain (start env threshold turns)) calls := by
  induction calls using List.reverseRecOn with
  | nil => rfl
  | append_singleton calls call ih =>
    have hbefore : ∀ other ∈ calls, SizesFit other.sessions ∧ MelFits other.sessions :=
      fun other hother => hcalls other (List.mem_append_left _ hother)
    obtain ⟨hS, hmel⟩ := hcalls call (List.mem_append_right _ (List.mem_singleton_self call))
    obtain ⟨zeros, hzeros, hwindowed⟩ := windowed_run env threshold turns calls
    have hsound := sound_run env threshold hturns fun other hother => (hbefore other hother).1
    rw [run_concat, run_concat, ← ih hbefore]
    exact plain_step env hsound hwindowed hzeros hS hmel

end WakeRun

end PairionClient
