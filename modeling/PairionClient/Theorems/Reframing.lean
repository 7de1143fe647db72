import PairionClient.Lemmas.Capture
import PairionClient.Lib.Run
import PairionClient.Vad.SileroVad

/-!
# From device reads to windows

Bytes are cut twice: the capture cuts what it reads into frames of 640, and the detector cuts its frames into windows of
1024. Where each cut falls depends on the stream alone, not on how it arrived; the first one, on what the accumulator held
when the session started, too.
-/

namespace PairionClient

open Transition

/-! ## The capture -/

namespace PairionAudioCapture

def next (c : PairionAudioCapture) (e : Event) : PairionAudioCapture := (c.step e).1

/-- The bytes read in a run. -/
def stream : PairionAudioCapture → List Event → Bytes
  | _, [] => []
  | c, e :: es => reads c e ++ stream (c.next e) es

/-- The frames emitted in it. -/
def frames : PairionAudioCapture → List Event → List Bytes
  | _, [] => []
  | c, e :: es => emitted (c.step e).2 ++ frames (c.next e) es

/-- No step of the run ends the session. -/
def OneSession (c : PairionAudioCapture) (es : List Event) : Prop := EveryStep next (fun c e => ends c e = false) c es

/-- A session cuts what was held at its start and what is read since, as one stream. -/
theorem cut_session {c : PairionAudioCapture} {es : List Event} (hrun : c.running = true)
    (hshort : c.accumulator.length < kPcmFrameBytes) (hes : OneSession c es) :
    Blocks.cut kPcmFrameBytes (c.accumulator ++ stream c es) = (frames c es, (run next c es).accumulator) := by
  induction es generalizing c with
  | nil => rw [stream, List.append_nil, Blocks.cut_of_lt hshort, frames, run_nil]
  | cons e es ih =>
    obtain ⟨hends, hes⟩ := hes
    obtain ⟨hrun', hkeeps⟩ := running_step hrun hends
    obtain ⟨hacc, hframes⟩ := step_cut hshort e
    rw [hkeeps, if_neg Bool.false_ne_true] at hacc
    have hnext : (c.next e).accumulator = (Blocks.cut kPcmFrameBytes (c.accumulator ++ reads c e)).2 := hacc
    have hrest := ih (c := c.next e) hrun' (short_step hshort e) hes
    rw [hnext] at hrest
    rw [stream, ← List.append_assoc, Blocks.cut_append kPcmFrameBytes_pos, frames, hframes, run_cons, hrest]

/-- A session frames its stream, that is, each frame is the bytes in its place, and the accumulator holds what is left. -/
def Frames (c : PairionAudioCapture) (es : List Event) : Prop :=
  Blocks.Framed kPcmFrameBytes (stream c es) (frames c es) (run next c es).accumulator

/-- It does when nothing was held at its start, and then only: what was held shifts the end of the last frame. -/
theorem frames_iff {c : PairionAudioCapture} {es : List Event} (hrun : c.running = true)
    (hshort : c.accumulator.length < kPcmFrameBytes) (hes : OneSession c es) : Frames c es ↔ c.accumulator = [] := by
  have hcut := cut_session hrun hshort hes
  unfold Frames
  constructor
  · intro h
    have hheld := (Blocks.framed_cut kPcmFrameBytes_pos (c.accumulator ++ stream c es)).remains
    rw [hcut] at hheld
    have hsame := congrArg List.length (hheld.symm.trans h.remains)
    rw [List.length_drop, List.length_drop, List.length_append] at hsame
    unfold kPcmFrameBytes at hsame hshort
    exact List.length_eq_zero_iff.1 (by omega)
  · intro hnil
    rw [hnil, List.nil_append] at hcut
    have h := Blocks.framed_cut kPcmFrameBytes_pos (stream c es)
    rwa [hcut] at h

/-- Over every run less than a frame waits. -/
theorem short_run (device : Option Nat) (es : List Event) :
    (run next (.create device) es).accumulator.length < kPcmFrameBytes :=
  inv_run_of_step (fun c : PairionAudioCapture => c.accumulator.length < kPcmFrameBytes) (fun _ e h => short_step h e) es kPcmFrameBytes_pos

/-- An event that starts the capture leaves it running. -/
theorem running_of_starts {c : PairionAudioCapture} {e : Event} (h : starts c e = true) : (c.next e).running = true := by
  unfold starts at h
  split at h
  · exact (Bool.and_eq_true_iff.1 h).2
  · exact (Bool.and_eq_true_iff.1 h).2

end PairionAudioCapture

/-! ## The detector -/

/-- A run of the session: the samples and the recurrent state it is given, and its outputs. -/
structure Inference where
  samples : List ℚ
  state : List ℚ
  outputs : List (List ℚ)

namespace SileroVad

variable (session : List ℚ → List ℚ → List (List ℚ))

/-- The detector after one chunk. -/
def afterChunk (now : Nat) (v : SileroVad) (chunk : Bytes) : SileroVad :=
  (v.runInference now (session (samples chunk) v.recurrentState)).1

/-- The runs of the session on chunks. -/
def inferences (now : Nat) : SileroVad → List Bytes → List Inference
  | _, [] => []
  | v, chunk :: chunks =>
    ⟨samples chunk, v.recurrentState, session (samples chunk) v.recurrentState⟩ ::
      inferences now (v.afterChunk session now chunk) chunks

/-- What the detector is called for between two inferences, apart from asking for its threshold. -/
inductive Call where
  | processPcmFrame (now : Nat) (pcm20ms : Bytes)
  | setThreshold (threshold : ℚ)
  | reset

def call (v : SileroVad) : Call → SileroVad
  | .processPcmFrame now pcm20ms => (v.processPcmFrame session now pcm20ms).1
  | .setThreshold threshold => v.setThreshold threshold
  | .reset => v.reset

/-- The frames that calls deliver, as one stream. -/
def delivered (calls : List Call) : Bytes :=
  calls.flatMap fun
    | .processPcmFrame _ pcm20ms => pcm20ms
    | _ => []

/-- The runs of the session in a call. -/
def inferencesOf (v : SileroVad) : Call → List Inference
  | .processPcmFrame now pcm20ms =>
    let r := Blocks.cut kInferenceBytes (v.accumulator ++ pcm20ms)
    inferences session now { v with accumulator := r.2 } r.1
  | _ => []

/-- The runs of the session in calls. -/
def log : SileroVad → List Call → List Inference
  | _, [] => []
  | v, c :: calls => inferencesOf session v c ++ log (v.call session c) calls

/-- Inference after inference on chunks, each with the recurrent state that the one before returned. -/
def chain : List ℚ → List Bytes → List Inference
  | _, [] => []
  | state, chunk :: chunks =>
    ⟨samples chunk, state, session (samples chunk) state⟩ :: chain ((session (samples chunk) state).getD 1 []) chunks

/-- The inferences are one for each window of 1024 bytes of the stream, in order, each on the samples of its window; the
first is given zeros, and every other what the one before returned. -/
structure Windowed (stream : Bytes) (infs : List Inference) : Prop where
  count : infs.length = stream.length / kInferenceBytes
  samples : ∀ k inf, infs[k]? = some inf →
    inf.samples = samples ((stream.drop (kInferenceBytes * k)).take kInferenceBytes)
  outputs : ∀ inf ∈ infs, inf.outputs = session inf.samples inf.state
  first : ∀ inf, infs[0]? = some inf → inf.state = List.replicate 256 0
  next : ∀ k inf inf', infs[k]? = some inf → infs[k + 1]? = some inf' → inf'.state = inf.outputs.getD 1 []

/-- A chunk is not empty. -/
theorem kInferenceBytes_pos : 0 < kInferenceBytes := Nat.succ_pos _

/-! ### A chunk and a call -/

/-- The state machine leaves the accumulator and the recurrent state to `processPcmFrame` and the session. -/
theorem transition_eq (now : Nat) (speechProb : ℚ) (v : SileroVad) :
    (v.transition now speechProb).1.accumulator = v.accumulator ∧
      (v.transition now speechProb).1.recurrentState = v.recurrentState := by
  unfold transition
  split
  · split <;> exact ⟨rfl, rfl⟩
  · split <;> exact ⟨rfl, rfl⟩
  · split
    · exact ⟨rfl, rfl⟩
    · split <;> exact ⟨rfl, rfl⟩

section

variable (hsession : ∀ x state, 2 ≤ (session x state).length)
include hsession

/-- A chunk changes the recurrent state to what the model returns, and leaves the accumulator. -/
theorem afterChunk_eq (now : Nat) (v : SileroVad) (chunk : Bytes) :
    (v.afterChunk session now chunk).accumulator = v.accumulator ∧
      (v.afterChunk session now chunk).recurrentState = (session (samples chunk) v.recurrentState).getD 1 [] := by
  unfold afterChunk runInference
  rw [if_pos (hsession _ _)]
  exact transition_eq now _ _

/-- The recurrent state after chunks. -/
theorem recurrentState_foldl (now : Nat) (v : SileroVad) (chunks : List Bytes) :
    (chunks.foldl (afterChunk session now) v).accumulator = v.accumulator ∧
      (chunks.foldl (afterChunk session now) v).recurrentState =
        chunks.foldl (fun state chunk => (session (samples chunk) state).getD 1 []) v.recurrentState := by
  induction chunks generalizing v with
  | nil => exact ⟨rfl, rfl⟩
  | cons chunk chunks ih =>
    obtain ⟨hacc, hstate⟩ := afterChunk_eq session hsession now v chunk
    obtain ⟨hacc', hstate'⟩ := ih (v.afterChunk session now chunk)
    rw [hstate] at hstate'
    exact ⟨hacc'.trans hacc, hstate'⟩

/-- The inferences on chunks are a chain through the recurrent state. -/
theorem inferences_eq_chain (now : Nat) (v : SileroVad) (chunks : List Bytes) :
    inferences session now v chunks = chain session v.recurrentState chunks := by
  induction chunks generalizing v with
  | nil => rfl
  | cons chunk chunks ih => rw [inferences, chain, ih, (afterChunk_eq session hsession now v chunk).2]

end

/-- A call cuts its frame, and runs the session on the chunks in order. -/
theorem processPcmFrame_eq (now : Nat) (pcm20ms : Bytes) (v : SileroVad) :
    (v.processPcmFrame session now pcm20ms).1 =
      (Blocks.cut kInferenceBytes (v.accumulator ++ pcm20ms)).1.foldl (afterChunk session now)
        { v with accumulator := (Blocks.cut kInferenceBytes (v.accumulator ++ pcm20ms)).2 } := by
  have hfold (chunks : List Bytes) (acc : SileroVad × List VadSignal) :
      (chunks.foldl (fun acc chunk =>
        let out := acc.1.runInference now (session (samples chunk) acc.1.recurrentState)
        (out.1, acc.2 ++ out.2)) acc).1 = chunks.foldl (afterChunk session now) acc.1 := by
    induction chunks generalizing acc with
    | nil => rfl
    | cons chunk chunks ih => exact ih _
  exact hfold _ _

theorem chain_append (state : List ℚ) (xs ys : List Bytes) :
    chain session state (xs ++ ys) = chain session state xs ++
      chain session (xs.foldl (fun state chunk => (session (samples chunk) state).getD 1 []) state) ys := by
  induction xs generalizing state with
  | nil => rfl
  | cons x xs ih =>
    rw [List.cons_append, chain, ih, chain]
    rfl

/-! ### Calls between two resets -/

/-- Until the next reset the detector cuts what it holds and what is delivered, as one stream, and the inferences are a
chain over its windows. -/
theorem log_eq_chain (hsession : ∀ x state, 2 ≤ (session x state).length) {v : SileroVad} {calls : List Call}
    (hshort : v.accumulator.length < kInferenceBytes) (hcalls : Call.reset ∉ calls) :
    log session v calls =
        chain session v.recurrentState (Blocks.cut kInferenceBytes (v.accumulator ++ delivered calls)).1 ∧
      (run (call session) v calls).accumulator = (Blocks.cut kInferenceBytes (v.accumulator ++ delivered calls)).2 := by
  induction calls generalizing v with
  | nil =>
    have hcut : Blocks.cut kInferenceBytes (v.accumulator ++ delivered []) = ([], v.accumulator) := by
      rw [delivered, List.flatMap_nil, List.append_nil, Blocks.cut_of_lt hshort]
    rw [hcut]
    exact ⟨rfl, rfl⟩
  | cons c calls ih =>
    rw [List.mem_cons, not_or] at hcalls
    cases c with
    | reset => exact absurd rfl hcalls.1
    | setThreshold threshold => exact ih (v := v.setThreshold threshold) hshort hcalls.2
    | processPcmFrame now pcm20ms =>
      obtain ⟨hacc, hstate⟩ := recurrentState_foldl session hsession now
        { v with accumulator := (Blocks.cut kInferenceBytes (v.accumulator ++ pcm20ms)).2 }
        (Blocks.cut kInferenceBytes (v.accumulator ++ pcm20ms)).1
      rw [← processPcmFrame_eq] at hacc hstate
      have hshort' : (v.processPcmFrame session now pcm20ms).1.accumulator.length < kInferenceBytes := by
        rw [hacc]
        exact Blocks.length_cut_rest kInferenceBytes_pos _
      obtain ⟨hlog, hrest⟩ := ih hshort' hcalls.2
      have hsplit : v.accumulator ++ delivered (.processPcmFrame now pcm20ms :: calls) =
          (v.accumulator ++ pcm20ms) ++ delivered calls := (List.append_assoc _ _ _).symm
      rw [hacc] at hlog hrest
      rw [hstate] at hlog
      rw [hsplit, Blocks.cut_append kInferenceBytes_pos, chain_append]
      refine ⟨?_, hrest⟩
      rw [log, inferencesOf, inferences_eq_chain session hsession, call, hlog]

/-! ### The windows -/

/-- Each chunk is one inference. -/
theorem length_chain (state : List ℚ) (chunks : List Bytes) : (chain session state chunks).length = chunks.length := by
  induction chunks generalizing state with
  | nil => rfl
  | cons chunk chunks ih => rw [chain, List.length_cons, ih, List.length_cons]

/-- The inference at a place is on the chunk at that place. -/
theorem chain_getElem? {state : List ℚ} {chunks : List Bytes} {k : Nat} {inf : Inference}
    (h : (chain session state chunks)[k]? = some inf) :
    (∃ chunk, chunks[k]? = some chunk ∧ inf.samples = samples chunk) ∧ inf.outputs = session inf.samples inf.state := by
  induction chunks generalizing state k with
  | nil => simp [chain] at h
  | cons chunk chunks ih =>
    cases k with
    | zero =>
      obtain rfl := Option.some.inj h
      exact ⟨⟨chunk, rfl, rfl⟩, rfl⟩
    | succ k => exact ih h

/-- The next inference begins with the state that the one before returned. -/
theorem chain_next {state : List ℚ} {chunks : List Bytes} {k : Nat} {inf inf' : Inference}
    (h : (chain session state chunks)[k]? = some inf) (h' : (chain session state chunks)[k + 1]? = some inf') :
    inf'.state = inf.outputs.getD 1 [] := by
  induction chunks generalizing state k with
  | nil => simp [chain] at h
  | cons chunk chunks ih =>
    cases k with
    | succ k => exact ih h h'
    | zero =>
      obtain rfl := Option.some.inj h
      cases chunks with
      | nil => simp [chain] at h'
      | cons chunk' chunks =>
        obtain rfl := Option.some.inj h'
        rfl

/-- The chain over the blocks of a stream goes through it chunk by chunk. -/
theorem windowed_chain (stream : Bytes) :
    Windowed session stream (chain session (List.replicate 256 0) (Blocks.cut kInferenceBytes stream).1) := by
  have hframed := Blocks.framed_cut kInferenceBytes_pos stream
  refine ⟨?_, ?_, ?_, ?_, fun k inf inf' h h' => chain_next session h h'⟩
  · rw [length_chain, hframed.count]
  · intro k inf hinf
    obtain ⟨⟨chunk, hchunk, hsamples⟩, -⟩ := chain_getElem? session hinf
    have hk : k < stream.length / kInferenceBytes := by
      rw [← hframed.count]
      exact (List.getElem?_eq_some_iff.1 hchunk).1
    have hle : kInferenceBytes * (k + 1) ≤ stream.length := by
      rw [Nat.mul_comm]
      exact (Nat.le_div_iff_mul_le kInferenceBytes_pos).1 hk
    rw [hframed.block k hle] at hchunk
    rw [hsamples, Option.some.inj hchunk]
  · intro inf hinf
    obtain ⟨k, hk⟩ := List.mem_iff_getElem?.1 hinf
    exact (chain_getElem? session hk).2
  · intro inf hinf
    cases hchunks : (Blocks.cut kInferenceBytes stream).1 with
    | nil => simp [hchunks, chain] at hinf
    | cons chunk chunks =>
      rw [hchunks] at hinf
      obtain rfl := Option.some.inj hinf
      rfl

/-! ### The state after a reset -/

/-- The session returns both outputs, with a recurrent state of 256 elements. -/
def ReturnsState : Prop := ∀ x state, 2 ≤ (session x state).length ∧ ((session x state).getD 1 []).length = 256

/-- Every call keeps the size of the recurrent state. -/
theorem length_recurrentState_call (hsession : ReturnsState session) {v : SileroVad} (h : v.recurrentState.length = 256)
    (c : Call) : (v.call session c).recurrentState.length = 256 := by
  cases c with
  | setThreshold threshold => exact h
  | reset => rw [call, reset, List.length_map, h]
  | processPcmFrame now pcm20ms =>
    have hfold (chunks : List Bytes) (state : List ℚ) (hstate : state.length = 256) :
        (chunks.foldl (fun state chunk => (session (samples chunk) state).getD 1 []) state).length = 256 := by
      induction chunks generalizing state with
      | nil => exact hstate
      | cons chunk chunks ih => exact ih _ (hsession _ _).2
    rw [call, processPcmFrame_eq, (recurrentState_foldl session (fun x state => (hsession x state).1) now _ _).2]
    exact hfold _ _ h

/-- A fresh detector holds nothing and 256 zeros, and so does one that has just been reset. -/
theorem fresh_run (hsession : ReturnsState session) (threshold : ℚ) (silenceEndMs : Int) {before : List Call}
    (hreset : ∀ c ∈ before.getLast?, c = .reset) :
    (run (call session) (create threshold silenceEndMs) before).accumulator = [] ∧
      (run (call session) (create threshold silenceEndMs) before).recurrentState = List.replicate 256 0 := by
  rcases List.eq_nil_or_concat before with rfl | ⟨calls, c, rfl⟩
  · exact ⟨rfl, rfl⟩
  · rw [List.concat_eq_append] at hreset ⊢
    obtain rfl : c = .reset := hreset c (by simp)
    have hzeros : (create threshold silenceEndMs).recurrentState = List.replicate 256 0 := rfl
    have hcreate : (create threshold silenceEndMs).recurrentState.length = 256 := by rw [hzeros, List.length_replicate]
    have hlength := inv_run_of_step (fun v : SileroVad => v.recurrentState.length = 256)
      (fun _ c h => length_recurrentState_call session hsession h c) calls hcreate
    rw [run_append, run_cons, run_nil, call, reset]
    exact ⟨rfl, by rw [List.map_const', hlength]⟩

end SileroVad

/-- The capture: a session, started in any state that a run of calls, errors and reads has reached, frames its stream in
every state of it exactly when the accumulator was empty at its start. The detector: from its construction, or from any
reset on, the inferences are one for each window of the frames delivered since, and the accumulator holds what is left.
Both loops end. -/
theorem reframed_iff (session : List ℚ → List ℚ → List (List ℚ)) (hsession : SileroVad.ReturnsState session) :
    (∀ (device : Option Nat) (before es : List PairionAudioCapture.Event) (e : PairionAudioCapture.Event),
      PairionAudioCapture.starts (run PairionAudioCapture.next (.create device) before) e = true →
        ((run PairionAudioCapture.next (.create device) before).next e).OneSession es →
          (((run PairionAudioCapture.next (.create device) before).next e).Frames es ↔
            ((run PairionAudioCapture.next (.create device) before).next e).accumulator = [])) ∧
      (∀ (threshold : ℚ) (silenceEndMs : Int) (before calls : List SileroVad.Call),
        (∀ c ∈ before.getLast?, c = .reset) → .reset ∉ calls →
          SileroVad.Windowed session (SileroVad.delivered calls)
              (SileroVad.log session (run (SileroVad.call session) (.create threshold silenceEndMs) before) calls) ∧
            (run (SileroVad.call session) (.create threshold silenceEndMs) (before ++ calls)).accumulator =
                (SileroVad.delivered calls).drop
                  (SileroVad.kInferenceBytes * ((SileroVad.delivered calls).length / SileroVad.kInferenceBytes)) ∧
              (run (SileroVad.call session) (.create threshold silenceEndMs) (before ++ calls)).accumulator.length <
                SileroVad.kInferenceBytes) ∧
        ∀ held : Bytes,
          Blocks.cutTurns kPcmFrameBytes (held.length + 1) held = some (Blocks.cut kPcmFrameBytes held) ∧
            Blocks.cutTurns SileroVad.kInferenceBytes (held.length + 1) held = some (Blocks.cut SileroVad.kInferenceBytes held) := by
  refine ⟨?_, ?_, ?_⟩
  · intro device before es e hstarts hes
    have hshort := PairionAudioCapture.short_step (PairionAudioCapture.short_run device before) e
    exact PairionAudioCapture.frames_iff (PairionAudioCapture.running_of_starts hstarts) hshort hes
  · intro threshold silenceEndMs before calls hreset hcalls
    obtain ⟨hacc, hstate⟩ := SileroVad.fresh_run session hsession threshold silenceEndMs hreset
    obtain ⟨hlog, hrest⟩ := SileroVad.log_eq_chain session (fun x state => (hsession x state).1)
      (by rw [hacc]; exact SileroVad.kInferenceBytes_pos) hcalls
    rw [hacc, List.nil_append] at hlog hrest
    rw [hstate] at hlog
    have hframed := Blocks.framed_cut SileroVad.kInferenceBytes_pos (SileroVad.delivered calls)
    rw [hlog, run_append, hrest]
    exact ⟨SileroVad.windowed_chain session _, hframed.remains, hframed.short⟩
  · intro held
    exact ⟨Blocks.cutTurns_eq PairionAudioCapture.kPcmFrameBytes_pos (Nat.le_refl _) (Nat.lt_succ_self _),
      Blocks.cutTurns_eq SileroVad.kInferenceBytes_pos (Nat.le_refl _) (Nat.lt_succ_self _)⟩

/-- A session that hears nothing, and returns the recurrent state it is given at first. -/
def hearsNothing (_ _ : List ℚ) : List (List ℚ) := [[0], List.replicate 256 0]

/-- Two frames. -/
def twoFrames : List SileroVad.Call :=
  [.processPcmFrame 20 (List.replicate 640 0), .processPcmFrame 40 (List.replicate 640 0)]

/-- A read of a frame and a byte, and then another byte. -/
def twoReads : List PairionAudioCapture.Event := [.readyRead 0 (List.replicate 641 1), .readyRead 0 [2]]

/-- Two reads of a first session, which give one frame, and two frames after a reset, which give one window. -/
theorem reframed_iff_one_read :
    ((PairionAudioCapture.create none).next (.start (.opened 0))).Frames twoReads ∧
      ((PairionAudioCapture.create none).next (.start (.opened 0))).frames twoReads = [List.replicate 640 1] ∧
      SileroVad.Windowed hearsNothing (SileroVad.delivered twoFrames)
        (SileroVad.log hearsNothing (run (SileroVad.call hearsNothing) (.create (1 / 2) 800) [.processPcmFrame 0 [7, 7], .reset])
          twoFrames) := by
  have hsession : SileroVad.ReturnsState hearsNothing := fun _ _ => ⟨Nat.le_refl 2, List.length_replicate⟩
  have hcalls : .reset ∉ twoFrames := by
    intro h
    rcases List.mem_cons.1 h with h | h
    · cases h
    · cases List.mem_singleton.1 h
  obtain ⟨hcapture, hdetector, -⟩ := reframed_iff hearsNothing hsession
  refine ⟨(hcapture none [] twoReads (.start (.opened 0)) rfl ⟨rfl, rfl, trivial⟩).2 rfl, by decide +kernel, ?_⟩
  exact (hdetector (1 / 2) 800 [.processPcmFrame 0 [7, 7], .reset] twoFrames (by simp) hcalls).1

/-- The device fails after one sample, and the health check opens another: the first frame of the new session is not the
first 640 bytes of its stream. -/
theorem reframed_iff_false :
    ¬∀ (device : Option Nat) (before es : List PairionAudioCapture.Event) (e : PairionAudioCapture.Event),
      PairionAudioCapture.starts (run PairionAudioCapture.next (.create device) before) e = true →
        ((run PairionAudioCapture.next (.create device) before).next e).OneSession es →
          ((run PairionAudioCapture.next (.create device) before).next e).Frames es := by
  intro h
  let before : List PairionAudioCapture.Event := [.start (.opened 0), .readyRead 0 [1, 2], .stateChanged true 3]
  let es : List PairionAudioCapture.Event := [.readyRead 1 (List.replicate 638 0)]
  let e : PairionAudioCapture.Event := .restart (.opened 1)
  have hsession : ((run PairionAudioCapture.next (.create none) before).next e).OneSession es := ⟨rfl, trivial⟩
  have hframes := h none before es e (by decide) hsession
  have hshort := PairionAudioCapture.short_step (PairionAudioCapture.short_run none before) e
  have hempty := (PairionAudioCapture.frames_iff (by decide) hshort hsession).1 hframes
  exact absurd hempty (by decide)

end PairionClient
