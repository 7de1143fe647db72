import PairionClient.Lemmas.Moves
import PairionClient.Main.Threads

/-!
# What the queues hold

Whatever the speed of the threads: the encoder has been given the first frames captured and has posted what it emits on
them, in order; the wake detector has been given the first frames too, and the pre-roll buffer is the window of their last
bytes.
-/

namespace PairionClient

open Transition

namespace Threads

/-- The bytes of frames. -/
def pcm (frames : List PcmFrame) : List Bytes := frames.map Subtype.val

/-- The number of frames in the pre-roll buffer. -/
def kPreRollFrames : Nat := 10

/-- What the pre-roll buffer holds after some frames. -/
def window (frames : List Bytes) : Bytes := Blocks.keepLast kPreRollBytes frames.flatten

def wakeFrame : InferenceTask → Option PcmFrame
  | .wake frame => some frame
  | .vad _ => none

def encoderSignal : Posted → Option EncoderSignal
  | .encoded signal => some signal
  | _ => none

/-- The encoder's signals among posted ones. -/
def encoderSignals (posted : List Posted) : List EncoderSignal := posted.filterMap encoderSignal

/-- How many results of the encoder the main thread has handled. -/
def encodedHandled (t : Threads) : Nat := (encoderSignals t.handled).length

/-- The pipeline before capture starts. -/
def start (orchestrator : AudioSessionOrchestrator) (detector : OpenWakewordDetector) : Threads :=
  { orchestrator := orchestrator, detector := detector }

structure Wired (env : Env) (t : Threads) : Prop where
  encoder : t.encoder.history ++ pcm t.encoderQueue = pcm t.captured
  results : encoderSignals (t.handled ++ t.mainQueue) = (({} : PairionOpusEncoder).encodeFrames env t.encoder.history).2
  heard : t.heard ≤ t.captured.length
  inference : t.inferenceQueue.filterMap wakeFrame = t.captured.drop t.heard
  preRoll : t.detector.preRollBuffer = window (pcm (t.captured.take t.heard))
  wakes : ∀ k w, .wake k w ∈ t.mainQueue → k ≤ t.heard ∧ w.preRollBuffer = window (pcm (t.captured.take k))

/-- The bytes of a captured frame are those of 20 ms. -/
theorem length_of_mem_pcm {frames : List PcmFrame} {f : Bytes} (h : f ∈ pcm frames) : f.length = kPcmFrameBytes := by
  obtain ⟨frame, -, rfl⟩ := List.mem_map.1 h
  exact frame.2

@[simp] theorem pcm_append (fs gs : List PcmFrame) : pcm (fs ++ gs) = pcm fs ++ pcm gs := List.map_append

theorem encoderSignals_append (ps qs : List Posted) :
    encoderSignals (ps ++ qs) = encoderSignals ps ++ encoderSignals qs := List.filterMap_append

/-- No signal of the wake detector is one of the encoder. -/
theorem encoderSignals_map_wake (k : Nat) (signals : List WakeSignal) : encoderSignals (signals.map (.wake k)) = [] := by
  simp [encoderSignals, encoderSignal]

/-- No signal of the VAD is one of the encoder. -/
theorem encoderSignals_map_vad (signals : List VadSignal) : encoderSignals (signals.map .vad) = [] := by
  simp [encoderSignals, encoderSignal]

/-- The window moves along with the next frame. -/
theorem window_snoc (frames : List Bytes) (f : Bytes) :
    Blocks.keepLast kPreRollBytes (window frames ++ f) = window (frames ++ [f]) := by
  rw [window, Blocks.keepLast_append_keepLast, window, List.flatten_append]
  simp

/-- The pre-roll buffer is cut into the last frames. -/
theorem cut_window (frames : List PcmFrame) :
    (Blocks.cut kPcmFrameBytes (window (pcm frames))).1 = pcm (Blocks.keepLast kPreRollFrames frames) := by
  have hsize : ∀ f ∈ pcm frames, f.length = kPcmFrameBytes := fun _ => length_of_mem_pcm
  have hwindow : window (pcm frames) = (pcm (Blocks.keepLast kPreRollFrames frames)).flatten := by
    rw [window, show kPreRollBytes = kPcmFrameBytes * kPreRollFrames from rfl, Blocks.keepLast_flatten hsize]
    simp only [Blocks.keepLast_eq_drop, pcm, List.map_drop, List.length_map]
  rw [hwindow, Blocks.cut_flatten (by decide) fun _ => length_of_mem_pcm]

/-- A new pipeline has captured and posted nothing. -/
theorem wired_start (env : Env) (o : AudioSessionOrchestrator) {d : OpenWakewordDetector} (hd : d.preRollBuffer = []) :
    Wired env (start o d) :=
  ⟨rfl, rfl, Nat.zero_le _, rfl, hd, nofun⟩

/-- A captured frame is queued for both worker threads. -/
theorem wired_audioFrameAvailable {env : Env} {t : Threads} (h : Wired env t) (frame : PcmFrame) :
    Wired env (t.audioFrameAvailable frame) where
  encoder := by
    simp only [audioFrameAvailable, pcm_append, ← List.append_assoc, h.encoder]
  results := h.results
  heard := Nat.le_trans h.heard (by simp [audioFrameAvailable])
  inference := by
    simp [audioFrameAvailable, h.inference, wakeFrame, List.drop_append_of_le_length h.heard]
  preRoll := by
    simp only [audioFrameAvailable, List.take_append_of_le_length h.heard]
    exact h.preRoll
  wakes := by
    intro k w hw
    obtain ⟨hk, hbuffer⟩ := h.wakes k w hw
    simp only [audioFrameAvailable, List.take_append_of_le_length (Nat.le_trans hk h.heard)]
    exact ⟨hk, hbuffer⟩

/-- The encoder is the one that has been given the frames so far. -/
theorem encodeFrames_history {env : Env} {t : Threads} (h : Wired env t) :
    (({} : PairionOpusEncoder).encodeFrames env t.encoder.history).1 = t.encoder := by
  have hsize : ∀ f ∈ t.encoder.history, f.length = kPcmFrameBytes := fun f hf =>
    length_of_mem_pcm (h.encoder ▸ List.mem_append_left _ hf)
  exact PairionOpusEncoder.encodeFrames_fst env hsize {}

/-- What the encoder emits on a frame is posted behind what waits. -/
theorem wired_runEncoder {env : Env} {t : Threads} (h : Wired env t) : Wired env (t.runEncoder env) := by
  unfold runEncoder
  split
  · exact h
  · rename_i frame rest hqueue
    have hhistory : (t.encoder.encodePcmFrame env frame.1).1.history = t.encoder.history ++ [frame.1] := by
      rw [PairionOpusEncoder.encodePcmFrame_fst env frame.2]
    refine ⟨?_, ?_, h.heard, h.inference, h.preRoll, ?_⟩
    · rw [← h.encoder, hqueue, hhistory]
      simp [pcm]
    · rw [hhistory, PairionOpusEncoder.encodeFrames_append, encodeFrames_history h, ← List.append_assoc,
        encoderSignals_append, h.results]
      rfl
    · intro k w hw
      rcases List.mem_append.1 hw with hw | hw
      · exact h.wakes k w hw
      · simp at hw

/-- A wake word is posted with the number of frames that its pre-roll goes back from. -/
theorem wired_runInference {E : ThreadsEnv} {t : Threads} (h : Wired E.toEnv t) : Wired E.toEnv (t.runInference E) := by
  unfold runInference
  split
  · exact h
  · rename_i frame rest hqueue
    have hdrop : t.captured.drop t.heard = frame :: rest.filterMap wakeFrame := by
      rw [← h.inference, hqueue]
      rfl
    have hlength : t.captured.length - t.heard = (rest.filterMap wakeFrame).length + 1 := by
      simpa using congrArg List.length hdrop
    have htake : t.captured.take (t.heard + 1) = t.captured.take t.heard ++ [frame] := by
      rw [List.take_add, hdrop]
      rfl
    have hwindow : Blocks.keepLast kPreRollBytes (t.detector.preRollBuffer ++ frame.1) =
        window (pcm (t.captured.take (t.heard + 1))) := by
      rw [h.preRoll, window_snoc, htake, pcm_append]
      rfl
    obtain ⟨hbuffer, hsignals⟩ := OpenWakewordDetector.preRollBuffer_processPcmFrame E.toEnv E.wakeSessions
      t.orchestrator.now frame.1 t.detector
    refine ⟨h.encoder, ?_, ?_, ?_, hbuffer.trans hwindow, ?_⟩
    · rw [← List.append_assoc, encoderSignals_append, h.results, encoderSignals_map_wake, List.append_nil]
    · dsimp only
      omega
    · rw [← List.drop_drop, hdrop]
      rfl
    · intro k w hw
      rcases List.mem_append.1 hw with hw | hw
      · obtain ⟨hk, hpreRoll⟩ := h.wakes k w hw
        exact ⟨Nat.le_succ_of_le hk, hpreRoll⟩
      · obtain ⟨signal, hsignal, heq⟩ := List.mem_map.1 hw
        obtain ⟨rfl, rfl⟩ := Posted.wake.inj heq
        exact ⟨Nat.le_refl _, (hsignals _ hsignal).trans hwindow⟩
  · rename_i frame rest hqueue
    refine ⟨h.encoder, ?_, h.heard, ?_, h.preRoll, ?_⟩
    · rw [← List.append_assoc, encoderSignals_append, h.results, encoderSignals_map_vad, List.append_nil]
    · rw [← h.inference, hqueue]
      rfl
    · intro k w hw
      rcases List.mem_append.1 hw with hw | hw
      · exact h.wakes k w hw
      · simp at hw

/-- A slot that is run goes from what waits to what was handled. -/
theorem wired_runMain {env : Env} {t : Threads} (h : Wired env t) : Wired env (t.runMain env) := by
  unfold runMain
  split
  · exact h
  · rename_i posted rest hqueue
    refine ⟨h.encoder, ?_, h.heard, h.inference, h.preRoll, ?_⟩
    · rw [← h.results, hqueue, List.append_assoc]
      rfl
    · exact fun k w hw => h.wakes k w (hqueue ▸ List.mem_cons_of_mem posted hw)

/-- Other events of the main thread leave the queues. -/
theorem wired_runOwn {env : Env} {t : Threads} (h : Wired env t) (e : AudioSessionOrchestrator.Event) :
    Wired env (t.runOwn env e) := by
  unfold runOwn
  split
  · exact h
  · exact ⟨h.encoder, h.results, h.heard, h.inference, h.preRoll, h.wakes⟩

/-- Every step of a thread keeps the pipeline wired. -/
theorem wired_step {E : ThreadsEnv} {t : Threads} (h : Wired E.toEnv t) (e : Event) : Wired E.toEnv (step E t e) := by
  cases e with
  | audioFrameAvailable frame => exact wired_audioFrameAvailable h frame
  | encoderThread => exact wired_runEncoder h
  | inferenceThread => exact wired_runInference h
  | mainThread => exact wired_runMain h
  | own e => exact wired_runOwn h e

/-- In every interleaving. -/
theorem wired_run (E : ThreadsEnv) (o : AudioSessionOrchestrator) {d : OpenWakewordDetector} (hd : d.preRollBuffer = [])
    (es : List Event) : Wired E.toEnv (run (step E) (start o d) es) :=
  inv_run_of_step (Wired E.toEnv) (fun _ e h => wired_step h e) es (wired_start E.toEnv o hd)

/-! ## The main thread -/

/-- What a step does to the main thread: signals are posted to its queue, and perhaps the VAD has changed; or it takes the
first of them; or it runs a slot on an event of its own. -/
theorem main_cases (E : ThreadsEnv) (t : Threads) (e : Event) :
    (∃ new vad, (step E t e).mainQueue = t.mainQueue ++ new ∧ (step E t e).handled = t.handled ∧
        (step E t e).orchestrator = { t.orchestrator with vad := vad }) ∨
      (∃ posted, t.mainQueue = posted :: (step E t e).mainQueue ∧ (step E t e).handled = t.handled ++ [posted] ∧
        (step E t e).orchestrator = t.orchestrator.step E.toEnv posted.event) ∨
      ∃ own, (∀ opusFrame, own ≠ .opusFrameEncoded opusFrame) ∧ (step E t e).mainQueue = t.mainQueue ∧
        (step E t e).handled = t.handled ∧ (step E t e).orchestrator = t.orchestrator.step E.toEnv own := by
  have hsame : ∃ new vad, t.mainQueue = t.mainQueue ++ new ∧ t.handled = t.handled ∧
      t.orchestrator = { t.orchestrator with vad := vad } := ⟨[], t.orchestrator.vad, by simp, rfl, rfl⟩
  cases e with
  | audioFrameAvailable frame => exact .inl hsame
  | encoderThread =>
    rw [step, runEncoder]
    split
    · exact .inl hsame
    · exact .inl ⟨_, t.orchestrator.vad, rfl, rfl, rfl⟩
  | inferenceThread =>
    rw [step, runInference]
    split
    · exact .inl hsame
    · exact .inl ⟨_, t.orchestrator.vad, rfl, rfl, rfl⟩
    · exact .inl ⟨_, _, rfl, rfl, rfl⟩
  | mainThread =>
    rw [step, runMain]
    split
    · exact .inl hsame
    · rename_i posted rest hqueue
      exact .inr (.inl ⟨posted, hqueue, rfl, rfl⟩)
  | own e =>
    rw [step, runOwn]
    split
    · exact .inl hsame
    · rename_i own hown
      refine .inr (.inr ⟨own, ?_, rfl, rfl, rfl⟩)
      rintro opusFrame rfl
      cases e <;> cases hown

/-! ## A pipeline to run -/

/-- Sessions that hear the wake word whenever they are asked and take the first sample for the probability of speech, and
a codec that keeps the first byte. -/
def tagged : ThreadsEnv :=
  { Env.silence with
    opusEncode := fun _ pcm20ms => .ok (pcm20ms.take 1)
    wakeSessions := { mel := fun _ => [[0]], embedding := fun _ => [[0]], classifier := fun _ => [[1]] }
    vadSession := fun samples _ => [[samples.headD 0]] }

/-- A detector whose buffers lack one chunk of audio. -/
def primed : OpenWakewordDetector :=
  { melBuffer := List.replicate 76 [], embFeatures := List.replicate 15 [] }

def listening : AudioSessionOrchestrator :=
  (AudioSessionOrchestrator.create {} { socket := .connected } {}).startListening

/-- A frame of one byte repeated. -/
def flatFrame (b : UInt8) : PcmFrame := ⟨List.replicate kPcmFrameBytes b, List.length_replicate⟩

end Threads

end PairionClient
