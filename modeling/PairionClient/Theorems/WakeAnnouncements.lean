import PairionClient.Lemmas.Wakeword
import PairionClient.Lib.Refractory
import PairionClient.Lib.Run

/-!
# What the wake detector announces

The suppression window is a refractory filter behind the models: what a run announces is what the detector would announce
without the window, filtered. No buffer depends on the window, so the models are given the same inputs with it and without it.
Scores are numbers here; a NaN would be announced, since it is not below the threshold.
-/

namespace PairionClient

open Blocks Transition

namespace OpenWakewordDetector

/-- The detector with no detection behind it. -/
def quiet (d : OpenWakewordDetector) : OpenWakewordDetector := { d with suppressionActive := false, suppressionTimer := 0 }

/-- The instant of the last detection. -/
def lastDetection (d : OpenWakewordDetector) : Option Nat := if d.suppressionActive then some d.suppressionTimer else none

/-- The window of the source is that of the refractory filter. -/
theorem free_iff (now : Nat) (d : OpenWakewordDetector) : Refractory.Free kWakeSuppressionMs d.lastDetection now ↔
    ¬(d.suppressionActive = true ∧ now - d.suppressionTimer < kWakeSuppressionMs) := by
  rw [lastDetection, kWakeSuppressionMs]
  by_cases h : d.suppressionActive = true
  · simp only [h, if_true, Refractory.free_some, true_and]
    omega
  · simp [h]

end OpenWakewordDetector

namespace WakeRun

open OpenWakewordDetector

/-- The run with no detection behind it. -/
def quiet (r : WakeRun) : WakeRun := r.modify OpenWakewordDetector.quiet

/-- What is seen apart from announcements: what the models are given, and what is kept of what they return. -/
def fedOf (seen : List WakeSeen) : List WakeSeen := seen.filter fun x => x.signal?.isNone

variable (env : Env) (S : WakeSessions) (now : Nat) {d : OpenWakewordDetector} {r plain filtered : WakeRun}

/-! ## One frame -/

/-- Nothing was announced since the detector was `d`. -/
structure Silent (d : OpenWakewordDetector) (r : WakeRun) : Prop where
  lastDetection : r.detector.lastDetection = d.lastDetection
  threshold : r.detector.threshold = d.threshold
  signals : signalsOf r.seen = []

/-- The end of a frame that found the detector `d`, with the window and without it: the models were given the same, and
what was announced without it is announced unless the last detection is within the window. -/
structure Filters (d : OpenWakewordDetector) (plain filtered : WakeRun) : Prop where
  quiet : filtered.quiet.detector = plain.quiet.detector
  fed : fedOf filtered.seen = fedOf plain.seen
  lastDetection : filtered.detector.lastDetection = if signalsOf filtered.seen = [] then d.lastDetection else some now
  threshold : filtered.detector.threshold = d.threshold
  short : (signalsOf plain.seen).length ≤ 1
  signals : signalsOf filtered.seen =
    if Refractory.Free kWakeSuppressionMs d.lastDetection now then signalsOf plain.seen else []
  reaches : ∀ w ∈ signalsOf filtered.seen, env.toFloat32 d.threshold ≤ w.score

/-- A detection is announced with the pre-roll buffer as it stands. -/
theorem signalsOf_detect (score : ℚ) (r : WakeRun) :
    signalsOf (r.detect now score).seen = signalsOf r.seen ++ [⟨score, r.detector.preRollBuffer⟩] := List.filterMap_append

/-- What is seen and is no announcement is kept. -/
theorem fedOf_see_of_none {x : WakeSeen} (hx : x.signal? = none) (r : WakeRun) : fedOf (r.see x).seen = fedOf r.seen ++ [x] := by
  rw [fedOf, WakeRun.see, List.filter_append, List.filter_cons_of_pos (by simp [hx])]
  rfl

/-- An announcement is not fed to anything. -/
theorem fedOf_detect (score : ℚ) (r : WakeRun) : fedOf (r.detect now score).seen = fedOf r.seen := by
  have hnone : [WakeSeen.wakeWordDetected ⟨score, r.detector.preRollBuffer⟩].filter (fun x => x.signal?.isNone) = [] := rfl
  show fedOf (r.seen ++ [_]) = fedOf r.seen
  rw [fedOf, List.filter_append, hnone, List.append_nil]
  rfl

/-- To see anything else announces nothing. -/
theorem Silent.see (h : Silent d r) {x : WakeSeen} (hx : x.signal? = none) : Silent d (r.see x) :=
  ⟨h.lastDetection, h.threshold, (filterMap_see hx r).trans h.signals⟩

/-- Changes that leave the window and the threshold as they are. -/
theorem Silent.modify (h : Silent d r) {f : OpenWakewordDetector → OpenWakewordDetector}
    (hlast : ∀ d, (f d).lastDetection = d.lastDetection) (hthreshold : ∀ d, (f d).threshold = d.threshold) :
    Silent d (r.modify f) :=
  ⟨(hlast _).trans h.lastDetection, (hthreshold _).trans h.threshold, h.signals⟩

/-- New rows announce nothing. -/
theorem Silent.pushRows (h : Silent d r) (melData : List ℚ) : Silent d (r.pushRows env melData).trimRows := by
  have hsignals : signalsOf (r.pushRows env melData).trimRows.seen = signalsOf r.seen :=
    filterMap_pushRows env (fun _ => rfl) melData r
  refine ⟨?_, ?_, hsignals.trans h.signals⟩
  · rw [pushRows_eq]
    exact h.lastDetection
  · rw [pushRows_eq]
    exact h.threshold

/-- A new feature announces nothing. -/
theorem Silent.pushFeature (h : Silent d r) (values : List ℚ) : Silent d (r.pushFeature values) :=
  ⟨h.lastDetection, h.threshold, (filterMap_see (x := .feature values) rfl _).trans h.signals⟩

/-- Nothing is announced with the window or without it. -/
theorem Silent.filters (h : Silent d r) : Filters env now d r.quiet r where
  quiet := rfl
  fed := rfl
  lastDetection := by rw [if_pos h.signals, h.lastDetection]
  threshold := h.threshold
  short := by
    show (signalsOf r.seen).length ≤ 1
    rw [h.signals]
    exact Nat.zero_le 1
  signals := by
    show signalsOf r.seen = if _ then signalsOf r.seen else []
    rw [h.signals, ite_self]
  reaches := by simp [h.signals]

/-- A score that is high enough: the window alone says whether it is announced. -/
theorem Silent.filters_detect (h : Silent d r) {score : ℚ} (hscore : env.toFloat32 d.threshold ≤ score) :
    Filters env now d (r.quiet.detect now score)
      (if r.detector.suppressionActive ∧ now - r.detector.suppressionTimer < kWakeSuppressionMs then r
        else r.detect now score) := by
  have hplain : signalsOf (r.quiet.detect now score).seen = [⟨score, r.detector.preRollBuffer⟩] := by
    rw [signalsOf_detect]
    exact congrArg (· ++ _) h.signals
  have hfree := free_iff now r.detector
  rw [h.lastDetection] at hfree
  by_cases hwindow : r.detector.suppressionActive = true ∧ now - r.detector.suppressionTimer < kWakeSuppressionMs
  · rw [if_pos hwindow]
    exact
      { quiet := rfl
        fed := (fedOf_detect now score r.quiet).symm
        lastDetection := by rw [if_pos h.signals, h.lastDetection]
        threshold := h.threshold
        short := by rw [hplain]; exact Nat.le_refl 1
        signals := by rw [h.signals, if_neg fun hf => hfree.1 hf hwindow]
        reaches := by simp [h.signals] }
  · rw [if_neg hwindow]
    have hfiltered : signalsOf (r.detect now score).seen = [⟨score, r.detector.preRollBuffer⟩] := by
      rw [signalsOf_detect, h.signals, List.nil_append]
    exact
      { quiet := rfl
        fed := (fedOf_detect now score r).trans (fedOf_detect now score r.quiet).symm
        lastDetection := by rw [hfiltered]; rfl
        threshold := h.threshold
        short := by rw [hplain]; exact Nat.le_refl 1
        signals := by rw [hfiltered, hplain, if_pos (hfree.2 hwindow)]
        reaches := by simpa [hfiltered] using hscore }

/-- The classifier stage announces what it would without the window, outside the window. -/
theorem Silent.filters_runClassifier (h : Silent d r) :
    Filters env now d (runClassifier env S now r.quiet) (runClassifier env S now r) := by
  have hfeatures : r.quiet.detector.embFeatures = r.detector.embFeatures := rfl
  rw [runClassifier, runClassifier, hfeatures]
  cases clsInput r.detector.embFeatures with
  | none => exact (h.see rfl).filters env now
  | some input =>
    have hsee : r.quiet.see (.classifierInput input) = (r.see (.classifierInput input)).quiet := rfl
    have hinput : Silent d (r.see (.classifierInput input)) := h.see rfl
    dsimp only [reading]
    rw [hsee]
    generalize r.see (.classifierInput input) = r' at hinput
    split
    · rename_i score scores outputs houtput
      have hthreshold : r'.quiet.detector.threshold = d.threshold := hinput.threshold
      rw [hthreshold, hinput.threshold]
      by_cases hlow : score < env.toFloat32 d.threshold
      · rw [if_pos hlow, if_pos hlow]
        exact hinput.filters env now
      · have hquiet : ¬(r'.quiet.detector.suppressionActive = true ∧
            now - r'.quiet.detector.suppressionTimer < kWakeSuppressionMs) := fun hactive => absurd hactive.1 Bool.false_ne_true
        rw [if_neg hlow, if_neg hlow, if_neg hquiet]
        exact hinput.filters_detect env now (Rat.not_lt.1 hlow)
    · exact hinput.filters env now

theorem Silent.filters_runEmbedding (h : Silent d r) :
    Filters env now d (runEmbedding env S now r.quiet) (runEmbedding env S now r) := by
  have hmel : r.quiet.detector.melBuffer = r.detector.melBuffer := rfl
  rw [runEmbedding, runEmbedding, hmel]
  split
  · exact h.filters env now
  · cases embInput r.detector.melBuffer with
    | none => exact (h.see rfl).filters env now
    | some input =>
      have hsee : r.quiet.see (.embeddingInput input) = (r.see (.embeddingInput input)).quiet := rfl
      have hinput : Silent d (r.see (.embeddingInput input)) := h.see rfl
      dsimp only [reading]
      rw [hsee]
      generalize r.see (.embeddingInput input) = r' at hinput
      split
      · rename_i f fs outputs houtput
        have hpush : r'.quiet.pushFeature (f :: fs) = (r'.pushFeature (f :: fs)).quiet := rfl
        have hpushed := hinput.pushFeature (f :: fs)
        rw [hpush]
        generalize r'.pushFeature (f :: fs) = r'' at hpushed
        have hfeatures : r''.quiet.detector.embFeatures = r''.detector.embFeatures := rfl
        rw [hfeatures]
        split
        · exact hpushed.filters env now
        · exact hpushed.filters_runClassifier env S now
      · exact hinput.filters env now

/-- The rows do not depend on the window. -/
theorem pushRows_quiet (melData : List ℚ) (r : WakeRun) :
    (r.quiet.pushRows env melData).trimRows = (r.pushRows env melData).trimRows.quiet := by
  rw [pushRows_eq, pushRows_eq]
  rfl

theorem Silent.filters_processAccumulatedAudio (h : Silent d r) :
    Filters env now d (processAccumulatedAudio env S now r.quiet) (processAccumulatedAudio env S now r) := by
  have haudio : r.quiet.detector.rawAudioBuffer = r.detector.rawAudioBuffer := rfl
  rw [processAccumulatedAudio, processAccumulatedAudio, haudio]
  dsimp only
  split
  · exact h.filters env now
  · cases Checked.range r.detector.rawAudioBuffer _ _ with
    | none => exact (h.see rfl).filters env now
    | some input =>
      have hsee : r.quiet.see (.melInput input) = (r.see (.melInput input)).quiet := rfl
      have hinput : Silent d (r.see (.melInput input)) := h.see rfl
      dsimp only [reading]
      rw [hsee]
      generalize r.see (.melInput input) = r' at hinput
      split
      · rename_i m ms outputs houtput
        rw [pushRows_quiet]
        exact (hinput.pushRows env (m :: ms)).filters_runEmbedding env S now
      · exact hinput.filters env now

variable {env now}

/-- What both see and is no announcement leaves them beside each other. -/
theorem Filters.see (h : Filters env now d plain filtered) {x : WakeSeen} (hx : x.signal? = none) :
    Filters env now d (plain.see x) (filtered.see x) := by
  have hplain : signalsOf (plain.see x).seen = signalsOf plain.seen := filterMap_see hx plain
  have hfiltered : signalsOf (filtered.see x).seen = signalsOf filtered.seen := filterMap_see hx filtered
  exact
    { quiet := h.quiet
      fed := by rw [fedOf_see_of_none hx, fedOf_see_of_none hx, h.fed]
      lastDetection := by rw [hfiltered]; exact h.lastDetection
      threshold := h.threshold
      short := by rw [hplain]; exact h.short
      signals := by rw [hplain, hfiltered]; exact h.signals
      reaches := by rw [hfiltered]; exact h.reaches }

/-- A change that both make alike leaves them beside each other. -/
theorem Filters.modify (h : Filters env now d plain filtered) {f : OpenWakewordDetector → OpenWakewordDetector}
    (hquiet : ∀ d, (f d).quiet = f d.quiet) (hlast : ∀ d, (f d).lastDetection = d.lastDetection)
    (hthreshold : ∀ d, (f d).threshold = d.threshold) : Filters env now d (plain.modify f) (filtered.modify f) where
  quiet := (hquiet _).trans ((congrArg f h.quiet).trans (hquiet _).symm)
  fed := h.fed
  lastDetection := (hlast _).trans h.lastDetection
  threshold := (hthreshold _).trans h.threshold
  short := h.short
  signals := h.signals
  reaches := h.reaches

/-- Trimming the raw audio leaves them beside each other. -/
theorem Filters.trimRawAudio (h : Filters env now d plain filtered) :
    Filters env now d plain.trimRawAudio filtered.trimRawAudio := by
  have haudio : filtered.detector.rawAudioBuffer = plain.detector.rawAudioBuffer := by
    have hquiet := congrArg OpenWakewordDetector.rawAudioBuffer h.quiet
    exact hquiet
  rw [WakeRun.trimRawAudio, WakeRun.trimRawAudio, haudio]
  split
  · cases Checked.range plain.detector.rawAudioBuffer _ _ with
    | none => exact h.see rfl
    | some rest => exact h.modify (f := fun d => { d with rawAudioBuffer := rest }) (fun _ => rfl) (fun _ => rfl) fun _ => rfl
  · exact h

/-- A frame, with the window and without it. -/
theorem filters_step (env : Env) (d : OpenWakewordDetector) (call : WakeCall) :
    Filters env call.now d (step env { detector := d.quiet } call) (step env { detector := d } call) := by
  have happended : Silent d (WakeRun.modify (appendPcm call.frame.1) { detector := d }) := ⟨rfl, rfl, rfl⟩
  have hquiet : WakeRun.modify (appendPcm call.frame.1) { detector := d.quiet } =
      (WakeRun.modify (appendPcm call.frame.1) { detector := d }).quiet := rfl
  rw [step, step, WakeRun.processPcmFrame, WakeRun.processPcmFrame, hquiet]
  generalize WakeRun.modify (appendPcm call.frame.1) { detector := d } = r at happended
  have hsamples : r.quiet.detector.accumulatedSamples = r.detector.accumulatedSamples := rfl
  refine Filters.trimRawAudio ?_
  rw [WakeRun.processWhenFull, WakeRun.processWhenFull, hsamples]
  split
  · have hprocessed := happended.filters_processAccumulatedAudio env call.sessions call.now
    exact hprocessed.modify (f := clearAccumulated) (fun _ => rfl) (fun _ => rfl) fun _ => rfl
  · exact happended.filters env call.now

/-! ## Runs -/

variable (env)

/-- What is seen of each frame, with its instant, when `before` is done to the detector ahead of each frame. -/
def log (before : OpenWakewordDetector → OpenWakewordDetector) : OpenWakewordDetector → List WakeCall → List (Nat × WakeSeen)
  | _, [] => []
  | d, call :: calls =>
    let r := step env { detector := before d } call
    r.seen.map (fun x => (call.now, x)) ++ log before r.detector calls

/-- What a log announces, each with its instant. -/
def announcements (log : List (Nat × WakeSeen)) : List (Nat × WakeSignal) :=
  log.filterMap fun x => x.2.signal?.map fun w => (x.1, w)

/-- What the models are given in a log, and what is kept of what they return. -/
def fed (log : List (Nat × WakeSeen)) : List (Nat × WakeSeen) := log.filter fun x => x.2.signal?.isNone

theorem announcements_cons (before : OpenWakewordDetector → OpenWakewordDetector) (d : OpenWakewordDetector) (call : WakeCall)
    (calls : List WakeCall) :
    announcements (log env before d (call :: calls)) =
      (signalsOf (step env { detector := before d } call).seen).map (fun w => (call.now, w)) ++
        announcements (log env before (step env { detector := before d } call).detector calls) := by
  rw [log, announcements, List.filterMap_append, List.filterMap_map, signalsOf, List.map_filterMap]
  rfl

theorem fed_cons (before : OpenWakewordDetector → OpenWakewordDetector) (d : OpenWakewordDetector) (call : WakeCall)
    (calls : List WakeCall) :
    fed (log env before d (call :: calls)) =
      (fedOf (step env { detector := before d } call).seen).map (fun x => (call.now, x)) ++
        fed (log env before (step env { detector := before d } call).detector calls) := by
  rw [log, fed, List.filter_append, List.filter_map, fedOf]
  rfl

/-- The models of two detectors that differ in their detections only are given the same. -/
theorem fed_eq (calls : List WakeCall) {d e : OpenWakewordDetector} (h : d.quiet = e.quiet) :
    fed (log env id d calls) = fed (log env OpenWakewordDetector.quiet e calls) := by
  induction calls generalizing d e with
  | nil => rfl
  | cons call calls ih =>
    have hfilters := filters_step env d call
    rw [h] at hfilters
    rw [fed_cons, fed_cons, id, ih hfilters.quiet, hfilters.fed]

/-- The window filters a run. -/
theorem announcements_eq_admitted (calls : List WakeCall) {d e : OpenWakewordDetector} (h : d.quiet = e.quiet) :
    announcements (log env id d calls) =
      Refractory.admitted kWakeSuppressionMs Prod.fst d.lastDetection
        (announcements (log env OpenWakewordDetector.quiet e calls)) := by
  induction calls generalizing d e with
  | nil => rfl
  | cons call calls ih =>
    have hfilters := filters_step env d call
    rw [h] at hfilters
    rw [announcements_cons, announcements_cons, id, ih hfilters.quiet, hfilters.lastDetection]
    have hsignals := hfilters.signals
    have hshort := hfilters.short
    rcases hplain : signalsOf (step env { detector := e.quiet } call).seen with - | ⟨w, - | ⟨w', ws⟩⟩
    · rw [hplain, ite_self] at hsignals
      rw [hsignals]
      rfl
    · rw [hplain] at hsignals
      by_cases hfree : Refractory.Free kWakeSuppressionMs d.lastDetection call.now
      · rw [if_pos hfree] at hsignals
        rw [hsignals]
        exact (Refractory.admitted_cons_of_free kWakeSuppressionMs Prod.fst (a := (call.now, w)) hfree _).symm
      · rw [if_neg hfree] at hsignals
        rw [hsignals]
        exact (Refractory.admitted_cons_of_not_free kWakeSuppressionMs Prod.fst (a := (call.now, w)) hfree _).symm
    · rw [hplain] at hshort
      simp at hshort

/-- What is announced reaches the threshold, which stays. -/
theorem threshold_le_of_mem (calls : List WakeCall) {d : OpenWakewordDetector} {x : Nat × WakeSignal}
    (hx : x ∈ announcements (log env id d calls)) : env.toFloat32 d.threshold ≤ x.2.score := by
  induction calls generalizing d with
  | nil => simp [announcements, log] at hx
  | cons call calls ih =>
    have hfilters := filters_step env d call
    rw [announcements_cons] at hx
    rcases List.mem_append.1 hx with hx | hx
    · obtain ⟨w, hw, rfl⟩ := List.mem_map.1 hx
      exact hfilters.reaches w hw
    · have hlater := ih hx
      rwa [id, hfilters.threshold] at hlater

variable {env} {before : OpenWakewordDetector → OpenWakewordDetector}

/-- What is announced, with its instant, belongs to a frame. -/
theorem exists_call_of_mem (calls : List WakeCall) {x : Nat × WakeSignal} (hx : x ∈ announcements (log env before d calls)) :
    ∃ call ∈ calls, call.now = x.1 := by
  induction calls generalizing d with
  | nil => simp [announcements, log] at hx
  | cons call calls ih =>
    rw [announcements_cons] at hx
    rcases List.mem_append.1 hx with hx | hx
    · obtain ⟨w, hw, rfl⟩ := List.mem_map.1 hx
      exact ⟨call, List.mem_cons_self, rfl⟩
    · obtain ⟨other, hother, hnow⟩ := ih hx
      exact ⟨other, List.mem_cons_of_mem call hother, hnow⟩

/-- Announcements come in the order of time. -/
theorem pairwise_announcements {calls : List WakeCall} (h : calls.Pairwise fun a b => a.now ≤ b.now)
    (d : OpenWakewordDetector) : (announcements (log env before d calls)).Pairwise fun x y => x.1 ≤ y.1 := by
  induction calls generalizing d with
  | nil => exact List.Pairwise.nil
  | cons call calls ih =>
    obtain ⟨hfirst, hrest⟩ := List.pairwise_cons.1 h
    rw [announcements_cons, List.pairwise_append]
    refine ⟨?_, ih hrest _, ?_⟩
    · rw [List.pairwise_map]
      exact List.pairwise_of_forall fun _ _ => Nat.le_refl _
    · intro x hx y hy
      obtain ⟨w, -, rfl⟩ := List.mem_map.1 hx
      obtain ⟨other, hother, hnow⟩ := exists_call_of_mem calls hy
      exact hnow ▸ hfirst other hother

end WakeRun

namespace OpenWakewordDetector

open WakeRun

/-- Whatever numbers the models return, and whatever state the detector is in: the models are given the same, at the same
instants, as by a detector that has no window; two announcements are at least the window apart and reach the threshold;
and what would be announced without the window is announced, unless a detection is within the window before it. -/
theorem announces_outside_window (env : Env) (d : OpenWakewordDetector) (calls : List WakeCall)
    (hclock : calls.Pairwise fun a b => a.now ≤ b.now) (hlast : ∀ t ∈ d.lastDetection, ∀ call ∈ calls, t ≤ call.now) :
    let announced := announcements (log env id d calls)
    let candidates := announcements (log env OpenWakewordDetector.quiet d calls)
    fed (log env id d calls) = fed (log env OpenWakewordDetector.quiet d calls) ∧
      announced = Refractory.admitted 500 Prod.fst d.lastDetection candidates ∧
      announced.Pairwise (fun x y => x.1 + 500 ≤ y.1) ∧
      (∀ x ∈ announced, x ∈ candidates ∧ env.toFloat32 d.threshold ≤ x.2.score ∧ ∀ t ∈ d.lastDetection, t + 500 ≤ x.1) ∧
      ∀ x ∈ candidates, x ∉ announced →
        (∃ t ∈ d.lastDetection, t ≤ x.1 ∧ x.1 < t + 500) ∨ ∃ y ∈ announced, y.1 ≤ x.1 ∧ x.1 < y.1 + 500 := by
  intro announced candidates
  have hfilter : announced = Refractory.admitted 500 Prod.fst d.lastDetection candidates :=
    announcements_eq_admitted env calls rfl
  refine ⟨fed_eq env calls rfl, hfilter, ?_, ?_, ?_⟩
  · rw [hfilter]
    exact Refractory.pairwise_admitted 500 Prod.fst d.lastDetection candidates
  · intro x hx
    refine ⟨?_, threshold_le_of_mem env calls hx, ?_⟩
    · rw [hfilter] at hx
      exact (Refractory.sublist_admitted 500 Prod.fst d.lastDetection candidates).subset hx
    · intro t ht
      rw [hfilter, ht] at hx
      exact Refractory.gap_le_of_mem 500 Prod.fst hx
  · intro x hx hdropped
    rw [hfilter] at hdropped ⊢
    refine Refractory.covered_of_mem 500 Prod.fst (pairwise_announcements hclock d) ?_ hx hdropped
    intro t ht y hy
    obtain ⟨call, hcall, hnow⟩ := exists_call_of_mem calls hy
    exact hnow ▸ hlast t ht call hcall

/-! ## Models that hear the wake word -/

/-- Models that give whatever they are given the same score. -/
structure Hears (score : ℚ) (S : WakeSessions) : Prop where
  mel : ∃ m ms, ∀ input, S.mel input = [m :: ms]
  embedding : ∃ f fs, (∀ input, S.embedding input = [f :: fs]) ∧ Fits (f :: fs)
  classifier : ∀ input, S.classifier input = [[score]]

/-- Each model has its input when it is its turn, and the score is high enough. -/
structure Stocked (env : Env) (score : ℚ) (d : OpenWakewordDetector) : Prop where
  rows : 76 ≤ d.melBuffer.length ∧ d.melBuffer.length ≤ 200
  width : ∀ row ∈ d.melBuffer, row.length = kMelFrameWidth
  features : 16 ≤ d.embFeatures.length ∧ d.embFeatures.length ≤ 120
  fits : ∀ feat ∈ d.embFeatures, Fits feat
  score : env.toFloat32 d.threshold ≤ score

variable {env : Env} {score : ℚ} {S : WakeSessions} {d : OpenWakewordDetector} {r : WakeRun}

/-- New rows leave each model its input. -/
theorem Stocked.pushRows (h : Stocked env score r.detector) (melData : List ℚ) :
    Stocked env score (r.pushRows env melData).trimRows.detector := by
  have hmel : (r.pushRows env melData).trimRows.detector.melBuffer =
      keepLast kMelBufferMaxLen (r.detector.melBuffer ++ rowsRead env melData) := by
    rw [pushRows_eq]
    rfl
  have hrows := h.rows
  refine ⟨?_, ?_, ?_, ?_, ?_⟩
  · rw [hmel, length_keepLast, List.length_append]
    unfold kMelBufferMaxLen
    omega
  · intro row hrow
    rw [hmel] at hrow
    rcases List.mem_append.1 (mem_of_mem_keepLast hrow) with hold | hnew
    · exact h.width row hold
    · exact length_of_mem_rowsRead env hnew
  · rw [pushRows_eq]
    exact h.features
  · rw [pushRows_eq]
    exact h.fits
  · rw [pushRows_eq]
    exact h.score

/-- A feature that fits leaves each model its input. -/
theorem Stocked.pushFeature (h : Stocked env score r.detector) {values : List ℚ} (hvalues : Fits values) :
    Stocked env score (r.pushFeature values).detector := by
  have hfeatures : (r.pushFeature values).detector.embFeatures =
      keepLast kFeatureBufferMaxLen (r.detector.embFeatures ++ [values]) := rfl
  have hmany := h.features
  refine ⟨h.rows, h.width, ?_, ?_, h.score⟩
  · rw [hfeatures, length_keepLast, List.length_append, List.length_singleton]
    unfold kFeatureBufferMaxLen
    omega
  · intro feat hfeat
    rw [hfeatures] at hfeat
    rcases List.mem_append.1 (mem_of_mem_keepLast hfeat) with hold | hnew
    · exact h.fits feat hold
    · rwa [List.mem_singleton.1 hnew]

/-- The classifier has its input, and a detector without a window announces the score. -/
theorem Stocked.runClassifier (h : Stocked env score r.detector) (hquiet : r.detector.suppressionActive = false)
    (hears : Hears score S) (now : Nat) :
    WakeRun.runClassifier env S now r =
      (r.see (.classifierInput (classifierInput r.detector.embFeatures))).detect now score := by
  have hfeatures := h.features
  rw [WakeRun.runClassifier, clsInput_eq hfeatures.1 (by omega) h.fits]
  dsimp only [reading]
  rw [hears.classifier]
  have hwindow : ¬(r.detector.suppressionActive = true ∧ now - r.detector.suppressionTimer < kWakeSuppressionMs) := by
    simp [hquiet]
  exact (if_neg (Rat.not_lt.2 h.score)).trans (if_neg hwindow)

/-- From `r` to `r'` nothing was announced, and the samples stay. -/
structure Unannounced (r r' : WakeRun) : Prop where
  audio : r'.detector.rawAudioBuffer = r.detector.rawAudioBuffer
  active : r'.detector.suppressionActive = r.detector.suppressionActive
  signals : signalsOf r'.seen = signalsOf r.seen

/-- With such models, and outside the window, the embedding stage ends in a detection. -/
theorem Stocked.runEmbedding (h : Stocked env score r.detector) (hquiet : r.detector.suppressionActive = false)
    (hears : Hears score S) (now : Nat) :
    ∃ r' : WakeRun, WakeRun.runEmbedding env S now r = r'.detect now score ∧ Stocked env score r'.detector ∧
      Unannounced r r' := by
  obtain ⟨f, fs, hembedding, hfits⟩ := hears.embedding
  have hrows := h.rows
  have hread := embInput_eq hrows.1 (by omega) h.width
  generalize (keepLast kMelFramesNeeded r.detector.melBuffer).flatten = input at hread
  have hpushed : Stocked env score ((r.see (.embeddingInput input)).pushFeature (f :: fs)).detector :=
    Stocked.pushFeature (r := r.see (.embeddingInput input)) h hfits
  have hsilent : signalsOf ((r.see (.embeddingInput input)).pushFeature (f :: fs)).seen = signalsOf r.seen :=
    (filterMap_see (x := .feature (f :: fs)) rfl _).trans (filterMap_see rfl r)
  rw [WakeRun.runEmbedding, staticCastInt_of_lt (by omega), if_neg (by unfold kMelFramesNeeded; omega), hread]
  dsimp only [reading]
  rw [hembedding]
  dsimp only
  have hquiet' : ((r.see (.embeddingInput input)).pushFeature (f :: fs)).detector.suppressionActive = false := hquiet
  have haudio : ((r.see (.embeddingInput input)).pushFeature (f :: fs)).detector.rawAudioBuffer = r.detector.rawAudioBuffer :=
    rfl
  generalize (r.see (.embeddingInput input)).pushFeature (f :: fs) = r₁ at hpushed hsilent hquiet' haudio
  have hfeatures := hpushed.features
  rw [staticCastInt_of_lt (by omega), if_neg (by unfold kEmbFeaturesNeeded; omega), hpushed.runClassifier hquiet' hears now]
  exact ⟨_, rfl, hpushed, haudio, hquiet'.trans hquiet.symm, (filterMap_see rfl r₁).trans hsilent⟩

/-- The models run, one after the other. -/
theorem Stocked.processAccumulatedAudio (h : Stocked env score r.detector) (hquiet : r.detector.suppressionActive = false)
    (hears : Hears score S) (hwindow : kMelChunkSamples + kMelContextSamples ≤ r.detector.rawAudioBuffer.length)
    (hsize : r.detector.rawAudioBuffer.length < 2147483648) (now : Nat) :
    ∃ r' : WakeRun, WakeRun.processAccumulatedAudio env S now r = r'.detect now score ∧ Stocked env score r'.detector ∧
      Unannounced r r' := by
  obtain ⟨m, ms, hmel⟩ := hears.mel
  rw [WakeRun.processAccumulatedAudio]
  dsimp only
  rw [staticCastInt_of_lt hsize, if_neg (by omega), range_rawAudio hwindow]
  generalize keepLast (kMelChunkSamples + kMelContextSamples) r.detector.rawAudioBuffer = input
  have hpushed : Stocked env score ((r.see (.melInput input)).pushRows env (m :: ms)).trimRows.detector :=
    Stocked.pushRows (r := r.see (.melInput input)) h (m :: ms)
  have hkept : Unannounced r ((r.see (.melInput input)).pushRows env (m :: ms)).trimRows := by
    have hsignals : signalsOf ((r.see (.melInput input)).pushRows env (m :: ms)).trimRows.seen = signalsOf r.seen :=
      (filterMap_pushRows env (fun _ => rfl) (m :: ms) (r.see (.melInput input))).trans (filterMap_see rfl r)
    refine ⟨?_, ?_, hsignals⟩
    · rw [pushRows_eq]
      rfl
    · rw [pushRows_eq]
      rfl
  dsimp only [reading]
  rw [hmel]
  dsimp only
  generalize ((r.see (.melInput input)).pushRows env (m :: ms)).trimRows = r₁ at hpushed hkept
  obtain ⟨r', hembedding, hstocked, hkept'⟩ := hpushed.runEmbedding (hkept.active.trans hquiet) hears now
  exact ⟨r', hembedding, hstocked, hkept'.audio.trans hkept.audio, hkept'.active.trans hkept.active,
    hkept'.signals.trans hkept.signals⟩

/-- The samples that a frame adds. -/
theorem length_samples_frame (frame : PcmFrame) : ((pcmSamples frame.1).map fun (s : Int) => (s : ℚ)).length = 320 := by
  rw [List.length_map, length_pcmSamples, frame.2]
  rfl

/-- When a chunk has accumulated, the models run on it, and the wake word is announced. -/
theorem Stocked.processWhenFull (h : Stocked env score r.detector) (hquiet : r.detector.suppressionActive = false)
    (hsilent : signalsOf r.seen = []) (hears : Hears score S) (hwindow : 1760 ≤ r.detector.rawAudioBuffer.length)
    (hsize : r.detector.rawAudioBuffer.length < 2147483648) (now : Nat) :
    let r' := WakeRun.processWhenFull env S now r
    Stocked env score r'.detector ∧ r'.detector.rawAudioBuffer = r.detector.rawAudioBuffer ∧
      r'.detector.accumulatedSamples =
        (if 1280 ≤ r.detector.accumulatedSamples then 0 else r.detector.accumulatedSamples) ∧
      (signalsOf r'.seen).length = if 1280 ≤ r.detector.accumulatedSamples then 1 else 0 := by
  obtain ⟨heard, hprocessed, hstocked, hkept⟩ := h.processAccumulatedAudio hquiet hears hwindow hsize now
  have hwhole : WakeRun.processWhenFull env S now r =
      if 1280 ≤ r.detector.accumulatedSamples then (heard.detect now score).modify clearAccumulated else r := by
    rw [WakeRun.processWhenFull, hprocessed]
    rfl
  dsimp only
  rw [hwhole]
  split
  · refine ⟨⟨hstocked.rows, hstocked.width, hstocked.features, hstocked.fits, hstocked.score⟩, hkept.audio, rfl, ?_⟩
    show (signalsOf (heard.detect now score).seen).length = 1
    rw [signalsOf_detect, hkept.signals, hsilent]
    rfl
  · exact ⟨h, rfl, rfl, congrArg List.length hsilent⟩

/-- A frame of a stocked detector without a window: every fourth one is announced. -/
theorem Stocked.step (h : Stocked env score d)
    (hsamples : 1760 ≤ d.rawAudioBuffer.length ∧ d.rawAudioBuffer.length ≤ 32000) {call : WakeCall}
    (hears : Hears score call.sessions) :
    let r := WakeRun.step env { detector := d.quiet } call
    Stocked env score r.detector ∧ (1760 ≤ r.detector.rawAudioBuffer.length ∧ r.detector.rawAudioBuffer.length ≤ 32000) ∧
      r.detector.accumulatedSamples = (if 960 ≤ d.accumulatedSamples then 0 else d.accumulatedSamples + 320) ∧
      (signalsOf r.seen).length = if 960 ≤ d.accumulatedSamples then 1 else 0 := by
  obtain ⟨r₁, hr₁⟩ : ∃ r₁, r₁ = WakeRun.modify (appendPcm call.frame.1) { detector := d.quiet } := ⟨_, rfl⟩
  have hcount := length_samples_frame call.frame
  have hsize₁ : r₁.detector.rawAudioBuffer.length = d.rawAudioBuffer.length + 320 := by
    rw [hr₁, ← hcount]
    exact List.length_append
  have haccumulated₁ : r₁.detector.accumulatedSamples = d.accumulatedSamples + 320 := by
    rw [hr₁, ← hcount]
    rfl
  have hstocked₁ : Stocked env score r₁.detector := by
    rw [hr₁]
    exact ⟨h.rows, h.width, h.features, h.fits, h.score⟩
  obtain ⟨hstocked, haudio, haccumulated, hsignals⟩ := hstocked₁.processWhenFull (by rw [hr₁]; rfl) (by rw [hr₁]; rfl) hears
    (by omega) (by omega) call.now
  have hsize : (WakeRun.processWhenFull env call.sessions call.now r₁).detector.rawAudioBuffer.length =
      d.rawAudioBuffer.length + 320 := (congrArg List.length haudio).trans hsize₁
  have hstep : WakeRun.step env { detector := d.quiet } call =
      (WakeRun.processWhenFull env call.sessions call.now r₁).modify OpenWakewordDetector.trimRawAudio := by
    rw [WakeRun.step, WakeRun.processPcmFrame, ← hr₁, trimRawAudio_eq (by omega)]
    rfl
  have htrimmed : (WakeRun.step env { detector := d.quiet } call).detector.rawAudioBuffer.length =
      min 32000 (d.rawAudioBuffer.length + 320) := by
    rw [hstep, ← hsize]
    exact length_keepLast _ _
  dsimp only
  refine ⟨?_, ⟨by omega, by omega⟩, ?_, ?_⟩
  · rw [hstep]
    exact ⟨hstocked.rows, hstocked.width, hstocked.features, hstocked.fits, hstocked.score⟩
  · rw [hstep]
    refine haccumulated.trans ?_
    rw [haccumulated₁]
    exact if_congr (by omega) rfl rfl
  · rw [hstep]
    refine hsignals.trans ?_
    rw [haccumulated₁]
    exact if_congr (by omega) rfl rfl

/-- The instants at which the models run, with so many samples accumulated at first. -/
def modelRuns : Nat → List Nat → List Nat
  | _, [] => []
  | accumulated, now :: nows =>
    if 960 ≤ accumulated then now :: modelRuns 0 nows else modelRuns (accumulated + 320) nows

/-- A stocked detector without a window announces the wake word whenever the models run. -/
theorem Stocked.candidates (h : Stocked env score d)
    (hsamples : 1760 ≤ d.rawAudioBuffer.length ∧ d.rawAudioBuffer.length ≤ 32000) {calls : List WakeCall}
    (hears : ∀ call ∈ calls, Hears score call.sessions) :
    (announcements (log env OpenWakewordDetector.quiet d calls)).map Prod.fst =
      modelRuns d.accumulatedSamples (calls.map fun call => call.now) := by
  induction calls generalizing d with
  | nil => rfl
  | cons call calls ih =>
    obtain ⟨hfirst, hrest⟩ := List.forall_mem_cons.1 hears
    obtain ⟨hstocked, hsamples', haccumulated, hsignals⟩ := h.step hsamples hfirst
    rw [announcements_cons, List.map_append, List.map_map, ih hstocked hsamples' hrest, haccumulated, List.map_cons, modelRuns]
    by_cases hfull : 960 ≤ d.accumulatedSamples
    · rw [if_pos hfull] at hsignals
      obtain ⟨w, hw⟩ := List.length_eq_one_iff.1 hsignals
      rw [if_pos hfull, if_pos hfull, hw]
      rfl
    · rw [if_neg hfull] at hsignals
      rw [if_neg hfull, if_neg hfull, List.length_eq_zero_iff.1 hsignals]
      rfl

/-- A detector whose buffers are full, a frame before the models run, with a detection behind it. -/
def primed : OpenWakewordDetector where
  rawAudioBuffer := List.replicate 1760 0
  accumulatedSamples := 960
  melBuffer := List.replicate 76 (List.replicate 32 2)
  embFeatures := List.replicate 16 (List.replicate 96 0)
  suppressionTimer := 0
  suppressionActive := true

/-- A frame of silence, in which the models hear the wake word. -/
def heardCall (now : Nat) : WakeCall where
  sessions :=
    { mel := fun _ => [List.replicate 256 0], embedding := fun _ => [List.replicate 96 0], classifier := fun _ => [[9 / 10]] }
  now := now
  frame := ⟨List.replicate 640 0, List.length_replicate⟩

/-- The detector of the example has its inputs. -/
theorem stocked_primed : Stocked .silence (9 / 10) primed where
  rows := by decide
  width := by
    intro row hrow
    rw [(List.mem_replicate.1 hrow).2]
    exact List.length_replicate
  features := by decide
  fits := by
    intro feat hfeat
    rw [(List.mem_replicate.1 hfeat).2]
    exact fits_of_lt (by rw [List.length_replicate]; omega)
  score := by decide +kernel

/-- The models of the example hear the wake word. -/
theorem hears_heardCall (now : Nat) : Hears (9 / 10) (heardCall now).sessions where
  mel := ⟨0, List.replicate 255 0, fun _ => rfl⟩
  embedding := ⟨0, List.replicate 95 0, fun _ => rfl, fits_of_lt (by rw [List.length_cons, List.length_replicate]; omega)⟩
  classifier _ := rfl

/-- A second of frames from 100 ms after a detection on: the wake word is heard every 80 ms, and announced at 500 and at
1060 ms. -/
theorem announces_outside_window_second :
    let nows := (List.range 50).map fun i => 100 + 20 * i
    let calls := nows.map heardCall
    fed (log .silence id primed calls) = fed (log .silence OpenWakewordDetector.quiet primed calls) ∧
      (announcements (log .silence OpenWakewordDetector.quiet primed calls)).map Prod.fst =
        [100, 180, 260, 340, 420, 500, 580, 660, 740, 820, 900, 980, 1060] ∧
      (announcements (log .silence id primed calls)).map Prod.fst = [500, 1060] := by
  intro nows calls
  have hclock : calls.Pairwise fun a b => a.now ≤ b.now := by
    rw [List.pairwise_map, List.pairwise_map]
    exact List.pairwise_lt_range.imp fun h => Nat.add_le_add_left (Nat.mul_le_mul_left 20 (Nat.le_of_lt h)) 100
  have hlast : ∀ t ∈ primed.lastDetection, ∀ call ∈ calls, t ≤ call.now := by
    intro t ht call _
    obtain rfl : 0 = t := Option.some.inj ht
    exact Nat.zero_le _
  have hsamples : 1760 ≤ primed.rawAudioBuffer.length ∧ primed.rawAudioBuffer.length ≤ 32000 := by
    have hlength : primed.rawAudioBuffer.length = 1760 := List.length_replicate
    omega
  have hears : ∀ call ∈ calls, Hears (9 / 10) call.sessions := by
    intro call hcall
    obtain ⟨now, -, rfl⟩ := List.mem_map.1 hcall
    exact hears_heardCall now
  obtain ⟨hfed, hannounced, -⟩ := announces_outside_window .silence primed calls hclock hlast
  have hcandidates := stocked_primed.candidates hsamples hears
  have hnows : calls.map (fun call => call.now) = nows := (List.map_map).trans (List.map_id _)
  rw [hnows] at hcandidates
  refine ⟨hfed, hcandidates.trans (by decide), ?_⟩
  rw [hannounced, Refractory.map_admitted, hcandidates]
  decide

end OpenWakewordDetector

end PairionClient
