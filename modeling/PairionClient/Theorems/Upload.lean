import PairionClient.Lemmas.Threads

namespace PairionClient

open Transition

namespace Threads

open AudioSessionOrchestrator (packetFrames packetFrames_append preRollFrames openingFrames onWakeWordDetected_eq
  move_streaming step_spec)
open PairionWebSocketClient (sent_puts)

/-! ## What a wake word uploads -/

/-- The stream is open: the orchestrator is Streaming, and the socket is connected. -/
def Open (t : Threads) : Prop :=
  t.orchestrator.state = .streaming ∧ t.orchestrator.wsClient.isConnected = true

instance (t : Threads) : Decidable (Open t) := inferInstanceAs (Decidable (_ ∧ _))

/-- The binary frames that an encoder makes of PCM frames. -/
def uploadFrames (env : Env) (streamId : String) (enc : PairionOpusEncoder) (frames : List PcmFrame) : List WireFrame :=
  packetFrames streamId (enc.encodeFrames env (pcm frames)).2

/-- What a step with the stream open adds to what was handled and sent. -/
def Adds (t t' : Threads) (new : List Posted) : Prop :=
  t'.handled = t.handled ++ new ∧ t'.orchestrator.activeStreamId = t.orchestrator.activeStreamId ∧
    t'.orchestrator.wsClient.sent =
      t.orchestrator.wsClient.sent ++ packetFrames t.orchestrator.activeStreamId (encoderSignals new)

/-- A slot that leaves the stream open sends the packet of an encoder's signal, and nothing on other events. -/
theorem sent_step (env : Env) {o : AudioSessionOrchestrator} (hs : o.state = .streaming) (hc : o.wsClient.isConnected = true)
    {e : AudioSessionOrchestrator.Event} (hs' : (o.step env e).state = .streaming) :
    (o.step env e).activeStreamId = o.activeStreamId ∧
      (o.step env e).wsClient.sent = o.wsClient.sent ++
        match e with
        | .opusFrameEncoded opusFrame => packetFrames o.activeStreamId [.opusFrameEncoded opusFrame]
        | _ => [] := by
  obtain ⟨-, -, hsent, hid, -⟩ := step_spec env o e
  rcases move_streaming env hs hs' with ⟨opusFrame, rfl, hm⟩ | ⟨hne, hm⟩
  · rw [hm] at hsent hid
    exact ⟨hid hs', hsent.trans (sent_puts hc _)⟩
  · rw [hm] at hsent hid
    refine ⟨hid hs', hsent.trans ?_⟩
    rw [sent_puts hc]
    split
    · exact absurd rfl (hne _)
    · rfl

/-- A step with the stream open sends a packet for each that it handles. -/
theorem adds_step (E : ThreadsEnv) {t : Threads} {e : Event} (h : Open t) (h' : Open (step E t e)) :
    ∃ new, Adds t (step E t e) new := by
  obtain ⟨hs, hc⟩ := h
  obtain ⟨hs', -⟩ := h'
  rcases main_cases E t e with ⟨new, vad, -, hhandled, ho⟩ | ⟨posted, -, hhandled, ho⟩ | ⟨own, hown, -, hhandled, ho⟩
  · exact ⟨[], by simp [hhandled], by rw [ho], by rw [ho]; exact (List.append_nil _).symm⟩
  · rw [ho] at hs'
    obtain ⟨hid, hsent⟩ := sent_step E.toEnv hs hc hs'
    refine ⟨[posted], hhandled, by rw [ho, hid], ?_⟩
    rw [ho, hsent]
    rcases posted with (opusFrame | reason) | ⟨k, w⟩ | (_ | _) <;> rfl
  · rw [ho] at hs'
    obtain ⟨hid, hsent⟩ := sent_step E.toEnv hs hc hs'
    refine ⟨[], by simp [hhandled], by rw [ho, hid], ?_⟩
    rw [ho, hsent]
    split
    · exact absurd rfl (hown _)
    · rfl

theorem adds_run (E : ThreadsEnv) {t : Threads} {es : List Event} (h : Always (step E) Open t es) :
    ∃ new, Adds t (run (step E) t es) new := by
  induction es generalizing t with
  | nil => exact ⟨[], (List.append_nil _).symm, rfl, (List.append_nil _).symm⟩
  | cons e es ih =>
    obtain ⟨hopen, hrest⟩ := (always_cons t e es).1 h
    obtain ⟨new, hhandled, hid, hsent⟩ := adds_step E hopen (hrest [] List.nil_prefix)
    obtain ⟨new', hhandled', hid', hsent'⟩ := ih hrest
    refine ⟨new ++ new', ?_, hid'.trans hid, ?_⟩
    · rw [run_cons, hhandled', hhandled, List.append_assoc]
    · rw [run_cons, hsent', hsent, hid, encoderSignals_append, packetFrames_append, List.append_assoc]

/-- The encoder's signals that the main thread has handled are those on the first frames captured. -/
theorem encoderSignals_handled {env : Env} {t : Threads} (h : Wired env t) :
    encoderSignals t.handled = (({} : PairionOpusEncoder).encodeFrames env (pcm (t.captured.take t.encodedHandled))).2 := by
  have hlength := congrArg List.length h.results
  rw [encoderSignals_append, List.length_append, PairionOpusEncoder.length_encodeFrames] at hlength
  have hle : t.encodedHandled ≤ t.encoder.history.length := by
    unfold encodedHandled
    omega
  have htake : pcm (t.captured.take t.encodedHandled) = t.encoder.history.take t.encodedHandled := by
    rw [pcm, List.map_take, ← pcm, ← h.encoder, List.take_append_of_le_length hle]
  have hsplit := h.results
  rw [encoderSignals_append, ← List.take_append_drop t.encodedHandled t.encoder.history,
    PairionOpusEncoder.encodeFrames_append] at hsplit
  rw [htake]
  refine (List.append_inj hsplit ?_).1
  rw [PairionOpusEncoder.length_encodeFrames, List.length_take_of_le hle]
  rfl

/-- Those handled after the first ones are those on the frames captured after as many frames. -/
theorem encoderSignals_between {env : Env} {t : Threads} (h : Wired env t) {earlier new : List Posted} {j : Nat}
    (hhandled : t.handled = earlier ++ new) (hj : (encoderSignals earlier).length = j) :
    encoderSignals new = (({ history := pcm (t.captured.take j) } : PairionOpusEncoder).encodeFrames env
      (pcm ((t.captured.take t.encodedHandled).drop j))).2 := by
  have hsignals := encoderSignals_handled h
  have hle : j ≤ t.encodedHandled := by
    rw [encodedHandled, hhandled, encoderSignals_append, List.length_append, hj]
    exact Nat.le_add_right _ _
  have hcaptured : t.encodedHandled ≤ t.captured.length := by
    have hlength := congrArg List.length hsignals
    rw [PairionOpusEncoder.length_encodeFrames, pcm, List.length_map, List.length_take] at hlength
    exact hlength.le.trans (Nat.min_le_right _ _)
  have hsplit : t.captured.take t.encodedHandled = t.captured.take j ++ (t.captured.take t.encodedHandled).drop j := by
    rw [← Nat.min_eq_left hle, ← List.take_take, Nat.min_eq_left hle, List.take_append_drop]
  have hencoder : (({} : PairionOpusEncoder).encodeFrames env (pcm (t.captured.take j))).1 =
      { history := pcm (t.captured.take j) } := PairionOpusEncoder.encodeFrames_fst env (fun _ => length_of_mem_pcm) {}
  rw [hhandled, encoderSignals_append, hsplit, pcm_append, PairionOpusEncoder.encodeFrames_append, hencoder] at hsignals
  refine (List.append_inj hsignals ?_).2
  rw [hj, PairionOpusEncoder.length_encodeFrames, pcm, List.length_map, List.length_take_of_le (hle.trans hcaptured)]

/-- What a wake word announced at frame `k` uploads for as long as the stream stays open: the last frames up to frame `k`,
and then, in order, the frames after the first `j`, where `j` is how many results of the encoder the main thread had
handled when it handled the wake word. -/
theorem upload_eq (E : ThreadsEnv) (o : AudioSessionOrchestrator) {d : OpenWakewordDetector} (hd : d.preRollBuffer = [])
    (es : List Event) {t : Threads} (ht : run (step E) (start o d) es = t) {k : Nat} {w : WakeSignal} {rest : List Posted}
    (hwake : t.mainQueue = .wake k w :: rest) (hs : t.orchestrator.state = .awaitingWake)
    (hc : t.orchestrator.wsClient.isConnected = true) (es' : List Event) {t' : Threads}
    (ht' : run (step E) t (.mainThread :: es') = t') (hopen : Always (step E) Open (step E t .mainThread) es') :
    k ≤ t.captured.length ∧ t'.orchestrator.wsClient.sent =
      t.orchestrator.wsClient.sent ++
        [.text (.wakeWordDetected (E.isoDateWithMs t.orchestrator.now) (some w.score)),
          .text (.audioStreamStartIn (E.createUuid t.orchestrator.uuids))] ++
        uploadFrames E.toEnv (E.createUuid t.orchestrator.uuids) t.orchestrator.preRollEncoder
          (Blocks.keepLast kPreRollFrames (t.captured.take k)) ++
        uploadFrames E.toEnv (E.createUuid t.orchestrator.uuids) { history := pcm (t'.captured.take t.encodedHandled) }
          ((t'.captured.take t'.encodedHandled).drop t.encodedHandled) := by
  have hwired : Wired E.toEnv t := ht ▸ wired_run E o hd es
  have hwired' : Wired E.toEnv t' := by
    rw [← ht', ← ht, ← run_append]
    exact wired_run E o hd _
  obtain ⟨hk, hpreRoll⟩ := hwired.wakes k w (hwake ▸ List.mem_cons_self)
  obtain ⟨new, hhandled, hid, hsent⟩ := adds_run E hopen
  have hopened : step E t .mainThread =
      { t with
        mainQueue := rest
        handled := t.handled ++ [.wake k w]
        orchestrator := t.orchestrator.onWakeWordDetected E.toEnv w.score w.preRollBuffer } := by
    rw [step, runMain, hwake]
    rfl
  refine ⟨hk.trans hwired.heard, ?_⟩
  rw [run_cons] at ht'
  rw [ht', hopened] at hhandled hsent
  rw [onWakeWordDetected_eq E.toEnv w.score w.preRollBuffer hs hc] at hsent
  have hbetween := encoderSignals_between hwired' hhandled
    (show (encoderSignals (t.handled ++ [.wake k w])).length = t.encodedHandled by
      rw [encoderSignals_append]
      exact congrArg List.length (List.append_nil _))
  rw [hsent, hbetween]
  simp only [sent_puts hc, openingFrames, preRollFrames, hpreRoll, cut_window, uploadFrames, List.append_assoc]

/-- Five frames are captured, and four reach the wake detector, which announces the wake word; the encoder's results on
`j` of them have been handled before. -/
def announcing (j : Nat) : List Event :=
  [1, 2, 3, 4, 5].map (fun b => .audioFrameAvailable (flatFrame b)) ++ List.replicate j .encoderThread ++
    List.replicate j .mainThread ++ List.replicate 7 .inferenceThread

def announced (j : Nat) : Threads := run (step tagged) (start listening primed) (announcing j)

/-- What is announced at the fourth frame. -/
def fourth : WakeSignal := ⟨1, window (pcm ([1, 2, 3, 4].map flatFrame))⟩

/-- The wake word waits for the main thread, and will open a stream. -/
def Waits (t : Threads) : Prop :=
  t.mainQueue = [.wake 4 fourth] ∧ t.orchestrator.state = .awaitingWake ∧ t.orchestrator.wsClient.isConnected = true

instance (t : Threads) : Decidable (Waits t) := inferInstanceAs (Decidable (_ ∧ _))

/-- The encoder's results so far are on the frames that the wake detector has been given: the fifth frame follows the
fourth. -/
theorem upload_eq_in_step :
    (run (step tagged) (announced 4) [.mainThread, .encoderThread, .mainThread]).orchestrator.wsClient.sent =
      [.text (.wakeWordDetected "2026-01-01T00:00:00.000Z" (some 1)),
        .text (.audioStreamStartIn "6f9619ff-8b86-4d01-b42d-00cf4fc964ff")] ++
        ([1, 2, 3, 4, 5].map fun b =>
          .binary (BinaryCodec.encodeBinaryFrame "6f9619ff-8b86-4d01-b42d-00cf4fc964ff" [b])) := by
  have hwaits : Waits (announced 4) := by decide +kernel
  have hopen : Always (step tagged) Open (step tagged (announced 4) .mainThread) [.encoderThread, .mainThread] := by
    rw [always_cons, always_cons, always_nil]
    decide +kernel
  have hup := upload_eq tagged listening rfl (announcing 4) (t := announced 4) rfl hwaits.1 hwaits.2.1 hwaits.2.2
    [.encoderThread, .mainThread] rfl hopen
  refine hup.2.trans ?_
  decide +kernel

/-- The encoder is ahead: its result on the fifth frame comes before the wake word that was announced at the fourth. The
frame is not uploaded, and the sixth follows the fourth. -/
theorem upload_eq_false :
    ¬∀ (E : ThreadsEnv) (o : AudioSessionOrchestrator) (d : OpenWakewordDetector) (es : List Event) (k : Nat) (w : WakeSignal)
      (rest : List Posted) (es' : List Event),
      let t := run (step E) (start o d) es
      let t' := run (step E) t (.mainThread :: es')
      d.preRollBuffer = [] → t.mainQueue = .wake k w :: rest → t.orchestrator.state = .awaitingWake →
        t.orchestrator.wsClient.isConnected = true → Always (step E) Open (step E t .mainThread) es' →
          t'.orchestrator.wsClient.sent <+:
            t.orchestrator.wsClient.sent ++
              [.text (.wakeWordDetected (E.isoDateWithMs t.orchestrator.now) (some w.score)),
                .text (.audioStreamStartIn (E.createUuid t.orchestrator.uuids))] ++
              uploadFrames E.toEnv (E.createUuid t.orchestrator.uuids) t.orchestrator.preRollEncoder
                (Blocks.keepLast kPreRollFrames (t.captured.take k)) ++
              uploadFrames E.toEnv (E.createUuid t.orchestrator.uuids) { history := pcm (t'.captured.take k) }
                (t'.captured.drop k) := by
  intro h
  have hwaits : Waits (announced 5) := by decide +kernel
  have hopen : Always (step tagged) Open (step tagged (announced 5) .mainThread)
      [.audioFrameAvailable (flatFrame 6), .encoderThread, .mainThread] := by
    rw [always_cons, always_cons, always_cons, always_nil]
    decide +kernel
  have hleading := h tagged listening primed (announcing 5) 4 fourth [] _ rfl hwaits.1 hwaits.2.1 hwaits.2.2 hopen
  exact absurd hleading (by decide +kernel)

end Threads

end PairionClient
