import PairionClient.Lemmas.Wakeword
import PairionClient.Lib.Run

/-!
# The windows of the wake word detector

The melspectrogram model is run at every fourth frame. Whatever the models return, and in spite of the trimming, what it is
given for the `k`-th time is the stretch of the sample stream from `1280 * k - 480` to `1280 * k + 1280`, with zeros before the
stream.
-/

namespace PairionClient

open Blocks Transition

namespace WakeCall

/-- The samples of a frame, at int16 scale. -/
def samples (call : WakeCall) : List ℚ := (pcmSamples call.frame.1).map fun (s : Int) => (s : ℚ)

/-- A frame has 320 samples. -/
theorem length_samples (call : WakeCall) : call.samples.length = 320 := by
  rw [samples, List.length_map, length_pcmSamples, call.frame.2]
  rfl

end WakeCall

namespace WakeRun

open OpenWakewordDetector

/-- The sample stream. -/
def samplesOf (calls : List WakeCall) : List ℚ := calls.flatMap WakeCall.samples

/-- The bytes of the stream. -/
def bytesOf (calls : List WakeCall) : Bytes := calls.flatMap fun call => call.frame.1

/-- The stream at a position, which may lie before it. -/
def sampleAt (samples : List ℚ) (i : Int) : ℚ := if i < 0 then 0 else samples.getD i.toNat 0

/-- The samples from `1280 * k - 480` to before `1280 * k + 1280`. -/
def window (samples : List ℚ) (k : Nat) : List ℚ := (List.range 1760).map fun (j : Nat) => sampleAt samples (1280 * k - 480 + j)

variable {calls : List WakeCall} {samples more : List ℚ} {k : Nat}

theorem samplesOf_concat (call : WakeCall) : samplesOf (calls ++ [call]) = samplesOf calls ++ call.samples := by
  simp [samplesOf]

theorem bytesOf_concat (call : WakeCall) : bytesOf (calls ++ [call]) = bytesOf calls ++ call.frame.1 := by
  simp [bytesOf]

/-- Each call brings 320 samples. -/
theorem length_samplesOf (calls : List WakeCall) : (samplesOf calls).length = 320 * calls.length := by
  induction calls with
  | nil => rfl
  | cons call calls ih =>
    rw [samplesOf, List.flatMap_cons, List.length_append, ← samplesOf, ih, call.length_samples, List.length_cons]
    omega

/-- A window that is full does not change. -/
theorem window_append (h : 1280 * (k + 1) ≤ samples.length) : window (samples ++ more) k = window samples k := by
  refine List.map_congr_left ?_
  intro j hj
  rw [List.mem_range] at hj
  unfold sampleAt
  split
  · rfl
  · rw [List.getD_append _ _ _ _ (by omega)]

/-- The last samples, after enough zeros, are the window that they have just filled. -/
theorem keepLast_eq_window {zeros : Nat} (hzeros : 480 ≤ zeros) (h : samples.length = 1280 * (k + 1)) :
    keepLast 1760 (List.replicate zeros 0 ++ samples) = window samples k := by
  have hlength : (List.replicate zeros (0 : ℚ) ++ samples).length = zeros + 1280 * (k + 1) := by
    rw [List.length_append, List.length_replicate, h]
  refine List.ext_getElem ?_ fun i hi hi' => ?_
  · rw [length_keepLast, hlength, window, List.length_map, List.length_range]
    omega
  · rw [length_keepLast, hlength] at hi
    simp only [keepLast_eq_drop, hlength, List.getElem_drop, window, List.getElem_map, List.getElem_range, sampleAt]
    by_cases hbefore : zeros + 1280 * (k + 1) - 1760 + i < zeros
    · rw [List.getElem_append_left (by rw [List.length_replicate]; exact hbefore), List.getElem_replicate, if_pos (by omega)]
    · rw [List.getElem_append_right (by rw [List.length_replicate]; omega), if_neg (by omega),
        List.getD_eq_getElem _ _ (by omega)]
      congr 1
      rw [List.length_replicate]
      omega

/-- After its context a window has its own 1280 samples. -/
theorem drop_window (h : 1280 * (k + 1) ≤ samples.length) :
    (window samples k).drop 480 = (samples.drop (1280 * k)).take 1280 := by
  refine List.ext_getElem ?_ fun i hi hi' => ?_
  · rw [List.length_drop, window, List.length_map, List.length_range, List.length_take, List.length_drop]
    omega
  · rw [List.length_drop, window, List.length_map, List.length_range] at hi
    simp only [window, List.getElem_drop, List.getElem_map, List.getElem_range, List.getElem_take, sampleAt]
    rw [if_neg (by omega), List.getD_eq_getElem _ _ (by omega)]
    congr 1
    omega

/-- What is new in each window is the next 1280 samples. -/
theorem flatMap_window {n : Nat} (h : 1280 * n ≤ samples.length) :
    ((List.range n).flatMap fun k => (window samples k).drop 480) = samples.take (1280 * n) := by
  induction n with
  | zero => simp
  | succ n ih =>
    have hnew : (window samples n).drop 480 = (samples.drop (1280 * n)).take 1280 := drop_window (by omega)
    rw [List.range_succ, List.flatMap_append, ih (by omega), List.flatMap_singleton, hnew, Nat.mul_succ, List.take_add]

/-! ## Runs -/

/-- After the calls, from a detector whose samples were `zeros` zeros and whose model had been given `before`. -/
structure Windowed (before : List (List ℚ)) (zeros : Nat) (calls : List WakeCall) (r : WakeRun) : Prop where
  recent : keepLast 1760 r.detector.rawAudioBuffer = keepLast 1760 (List.replicate zeros 0 ++ samplesOf calls)
  size : r.detector.rawAudioBuffer.length ≤ 35040
  accumulated : r.detector.accumulatedSamples = 320 * (calls.length % 4)
  inputs : melInputs r.seen = before ++ (List.range (calls.length / 4)).map (window (samplesOf calls))
  preRoll : r.detector.preRollBuffer = keepLast kPreRollBytes (bytesOf calls)

variable (env : Env) {before : List (List ℚ)} {zeros : Nat} {r : WakeRun}

theorem map_window_append (n : Nat) (h : 1280 * n ≤ samples.length) :
    (List.range n).map (window (samples ++ more)) = (List.range n).map (window samples) := by
  refine List.map_congr_left fun k hk => window_append ?_
  rw [List.mem_range] at hk
  omega

/-- What a frame adds to the buffers. -/
theorem Windowed.append (h : Windowed before zeros calls r) (call : WakeCall) :
    let r' := r.modify (appendPcm call.frame.1)
    keepLast 1760 r'.detector.rawAudioBuffer =
        keepLast 1760 (List.replicate zeros 0 ++ samplesOf (calls ++ [call])) ∧
      r'.detector.rawAudioBuffer.length ≤ 35360 ∧
      r'.detector.accumulatedSamples = 320 * (calls.length % 4) + 320 ∧
      r'.detector.preRollBuffer = keepLast kPreRollBytes (bytesOf (calls ++ [call])) := by
  have hraw : (r.modify (appendPcm call.frame.1)).detector.rawAudioBuffer =
      r.detector.rawAudioBuffer ++ call.samples := rfl
  have hsize := h.size
  refine ⟨?_, ?_, ?_, ?_⟩
  · rw [hraw, ← keepLast_append_keepLast, h.recent, keepLast_append_keepLast, samplesOf_concat, List.append_assoc]
  · rw [hraw, List.length_append, call.length_samples]
    omega
  · rw [← h.accumulated, ← call.length_samples]
    rfl
  · rw [bytesOf_concat, ← keepLast_append_keepLast, ← h.preRoll]
    rfl

/-- There are enough samples for a window as soon as the stream has them. -/
theorem window_of_recent (hrecent : keepLast 1760 r.detector.rawAudioBuffer = keepLast 1760 (List.replicate zeros 0 ++ samples))
    (hlength : 1760 ≤ zeros + samples.length) :
    kMelChunkSamples + kMelContextSamples ≤ r.detector.rawAudioBuffer.length := by
  have hsame := congrArg List.length hrecent
  rw [length_keepLast, length_keepLast, List.length_append, List.length_replicate] at hsame
  unfold kMelChunkSamples kMelContextSamples
  omega

/-- Once the fourth frame is there the model is given the window that it completes. -/
theorem inputs_processWhenFull {n : Nat} (S : WakeSessions) (now : Nat) (hzeros : 480 ≤ zeros)
    (hlength : samples.length = 320 * (n + 1))
    (hrecent : keepLast 1760 r.detector.rawAudioBuffer = keepLast 1760 (List.replicate zeros 0 ++ samples))
    (hsize : r.detector.rawAudioBuffer.length ≤ 35360) (haccumulated : r.detector.accumulatedSamples = 320 * (n % 4) + 320)
    (hinputs : melInputs r.seen = before ++ (List.range (n / 4)).map (window samples)) :
    let r' := processWhenFull env S now r
    r'.detector.rawAudioBuffer = r.detector.rawAudioBuffer ∧ r'.detector.preRollBuffer = r.detector.preRollBuffer ∧
      r'.detector.accumulatedSamples = 320 * ((n + 1) % 4) ∧
      melInputs r'.seen = before ++ (List.range ((n + 1) / 4)).map (window samples) := by
  dsimp only
  rw [processWhenFull]
  by_cases hfull : n % 4 = 3
  · rw [if_pos (by rw [haccumulated, hfull]; decide)]
    have hwindow := window_of_recent hrecent (by omega)
    have hleaves := leaves_processAccumulatedAudio env S now hwindow (by omega)
    generalize processAccumulatedAudio env S now r = r' at hleaves ⊢
    refine ⟨hleaves.raw, hleaves.preRoll, ?_, ?_⟩
    · rw [show (n + 1) % 4 = 0 by omega]
      rfl
    · have hnext : samples.length = 1280 * (n / 4 + 1) := by omega
      refine hleaves.inputs.trans ?_
      rw [show (n + 1) / 4 = n / 4 + 1 by omega, List.range_succ, List.map_append, ← List.append_assoc, ← hinputs]
      rw [List.map_singleton, ← keepLast_eq_window hzeros hnext, ← hrecent]
      simp [melInputs, see, WakeSeen.melInput?]
      rfl
  · have hnot : ¬r.detector.accumulatedSamples ≥ kMelChunkSamples := by
      rw [haccumulated]
      unfold kMelChunkSamples
      omega
    rw [if_neg hnot, show (n + 1) / 4 = n / 4 by omega]
    refine ⟨rfl, rfl, ?_, hinputs⟩
    rw [haccumulated]
    omega

/-- A frame, before the samples are trimmed. -/
theorem Windowed.processed (h : Windowed before zeros calls r) (hzeros : 480 ≤ zeros) (call : WakeCall) :
    let r' := processWhenFull env call.sessions call.now (r.modify (appendPcm call.frame.1))
    keepLast 1760 r'.detector.rawAudioBuffer =
        keepLast 1760 (List.replicate zeros 0 ++ samplesOf (calls ++ [call])) ∧
      r'.detector.rawAudioBuffer.length ≤ 35360 ∧
      r'.detector.accumulatedSamples = 320 * ((calls.length + 1) % 4) ∧
      melInputs r'.seen = before ++ (List.range ((calls.length + 1) / 4)).map (window (samplesOf (calls ++ [call]))) ∧
      r'.detector.preRollBuffer = keepLast kPreRollBytes (bytesOf (calls ++ [call])) := by
  obtain ⟨hrecent, hsize, haccumulated, hpreRoll⟩ := h.append call
  have hlength := length_samplesOf (calls ++ [call])
  rw [List.length_append, List.length_singleton] at hlength
  have hinputs : melInputs (r.modify (appendPcm call.frame.1)).seen =
      before ++ (List.range (calls.length / 4)).map (window (samplesOf (calls ++ [call]))) := by
    rw [samplesOf_concat, map_window_append _ (by rw [length_samplesOf]; omega)]
    exact h.inputs
  obtain ⟨hraw', hpreRoll', haccumulated', hinputs'⟩ :=
    inputs_processWhenFull env call.sessions call.now hzeros hlength hrecent hsize haccumulated hinputs
  dsimp only
  rw [hraw', hpreRoll']
  exact ⟨hrecent, hsize, haccumulated', hinputs', hpreRoll⟩

/-- Every frame moves the window on, and every fourth shows it to the model. -/
theorem Windowed.step (h : Windowed before zeros calls r) (hzeros : 480 ≤ zeros) (call : WakeCall) :
    Windowed before zeros (calls ++ [call]) (step env r call) := by
  obtain ⟨hrecent, hsize, haccumulated, hinputs, hpreRoll⟩ := h.processed env hzeros call
  rw [WakeRun.step, processPcmFrame, trimRawAudio_eq (by omega)]
  refine ⟨?_, ?_, ?_, ?_, hpreRoll⟩
  · exact (keepLast_keepLast (by decide) _).trans hrecent
  · refine (length_keepLast _ _).trans_le ((Nat.min_le_left _ _).trans ?_)
    decide
  · rw [List.length_append, List.length_singleton]
    exact haccumulated
  · rw [List.length_append, List.length_singleton]
    exact hinputs

/-- A turn of the warm-up: only zeros are in the samples. -/
theorem warmupChunk_zeros (zeros : Nat) (S : WakeSessions) (now : Nat) (hzeros : 480 ≤ zeros) (hsize : zeros ≤ 100000)
    (hraw : r.detector.rawAudioBuffer = List.replicate zeros 0) (hpreRoll : r.detector.preRollBuffer = []) :
    (warmupChunk env S now r).detector.rawAudioBuffer = List.replicate (zeros + 1280) 0 ∧
      (warmupChunk env S now r).detector.accumulatedSamples = 0 ∧ (warmupChunk env S now r).detector.preRollBuffer = [] := by
  rw [warmupChunk]
  generalize hr : r.modify pushSilence = r'
  have hraw' : r'.detector.rawAudioBuffer = List.replicate (zeros + 1280) 0 := by
    rw [← hr, List.replicate_add, ← hraw]
    rfl
  have hpreRoll' : r'.detector.preRollBuffer = [] := by
    rw [← hr]
    exact hpreRoll
  have hwindow : kMelChunkSamples + kMelContextSamples ≤ r'.detector.rawAudioBuffer.length := by
    rw [hraw', List.length_replicate]
    unfold kMelChunkSamples kMelContextSamples
    omega
  have hleaves := leaves_processAccumulatedAudio env S now hwindow (by rw [hraw', List.length_replicate]; omega)
  exact ⟨hleaves.raw.trans hraw', rfl, hleaves.preRoll.trans hpreRoll'⟩

/-- The warm-up leaves zeros in the buffer, and nothing accumulated. -/
theorem warmup_zeros (turns : Nat → WakeTurn) (n : Nat) (hn : n ≤ warmupChunks) {r : WakeRun}
    (hraw : r.detector.rawAudioBuffer = List.replicate 480 0) (haccumulated : r.detector.accumulatedSamples = 0)
    (hpreRoll : r.detector.preRollBuffer = []) :
    let r' := (List.range n).foldl (fun r i => warmupChunk env (turns i).sessions (turns i).now r) r
    r'.detector.rawAudioBuffer = List.replicate (480 + 1280 * n) 0 ∧ r'.detector.accumulatedSamples = 0 ∧
      r'.detector.preRollBuffer = [] := by
  induction n with
  | zero =>
    rw [Nat.mul_zero, Nat.add_zero]
    exact ⟨hraw, haccumulated, hpreRoll⟩
  | succ n ih =>
    obtain ⟨hraw', -, hpreRoll'⟩ := ih (by omega)
    have hfew : 480 + 1280 * n ≤ 100000 := by
      have hchunks : warmupChunks = 27 := rfl
      omega
    rw [List.range_succ, List.foldl_append, List.foldl_cons, List.foldl_nil, Nat.mul_succ, ← Nat.add_assoc]
    exact warmupChunk_zeros env (480 + 1280 * n) _ _ (Nat.le_add_right _ _) hfew hraw' hpreRoll'

/-- A detector begins with at least 480 zeros, before and after its warm-up. -/
theorem windowed_start (env : Env) (threshold : ℚ) (turns : Option (Nat → WakeTurn)) :
    ∃ zeros, 480 ≤ zeros ∧ Windowed (melInputs (start env threshold turns).seen) zeros [] (start env threshold turns) := by
  cases turns with
  | none =>
    have hsize : (List.replicate 480 (0 : ℚ)).length ≤ 35040 := by
      rw [List.length_replicate]
      decide
    refine ⟨480, Nat.le_refl _, ⟨?_, hsize, rfl, rfl, rfl⟩⟩
    rw [samplesOf, List.flatMap_nil, List.append_nil]
    rfl
  | some turns =>
    obtain ⟨hraw, haccumulated, hpreRoll⟩ := warmup_zeros env (r := { detector := { threshold } }) turns warmupChunks
      (Nat.le_refl _) rfl rfl rfl
    refine ⟨480 + 1280 * warmupChunks, Nat.le_add_right _ _, ?_⟩
    rw [start, warmup]
    refine ⟨?_, ?_, haccumulated, ?_, hpreRoll⟩
    · rw [hraw, samplesOf, List.flatMap_nil, List.append_nil]
    · rw [hraw, List.length_replicate]
      decide
    · rw [List.length_nil, Nat.zero_div, List.range_zero, List.map_nil, List.append_nil]

/-- Over every run, after the warm-up, the windows follow the frames. -/
theorem windowed_run (env : Env) (threshold : ℚ) (turns : Option (Nat → WakeTurn)) (calls : List WakeCall) :
    ∃ zeros, 480 ≤ zeros ∧ Windowed (melInputs (start env threshold turns).seen) zeros calls
      (run (step env) (start env threshold turns) calls) := by
  obtain ⟨zeros, hzeros, hstart⟩ := windowed_start env threshold turns
  exact ⟨zeros, hzeros, run_history (Windowed _ zeros) hstart (fun _ _ call h => h.step env hzeros call) calls⟩

/-- For every stream of frames, after a warm-up or without one, and whatever the models return: what the melspectrogram
model is given is one window after the other, one for every four frames; what is new in them are the samples of the
stream, none left out; and the pre-roll buffer holds the last 6400 bytes. -/
theorem mel_windows (env : Env) (threshold : ℚ) (turns : Option (Nat → WakeTurn)) (calls : List WakeCall) :
    let first := start env threshold turns
    let r := run (step env) first calls
    melInputs r.seen = melInputs first.seen ++ (List.range (calls.length / 4)).map (window (samplesOf calls)) ∧
      ((List.range (calls.length / 4)).flatMap fun k => (window (samplesOf calls) k).drop 480) =
        (samplesOf calls).take (1280 * (calls.length / 4)) ∧
      r.detector.preRollBuffer = keepLast 6400 (bytesOf calls) := by
  obtain ⟨_, -, h⟩ := windowed_run env threshold turns calls
  refine ⟨h.inputs, flatMap_window ?_, h.preRoll⟩
  rw [length_samplesOf]
  omega

end WakeRun

end PairionClient
