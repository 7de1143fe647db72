import PairionClient.Lemmas.Moves

namespace PairionClient

open Transition

namespace AudioSessionOrchestrator

/-! ## The VAD threshold -/

/-- The threshold is the one of the start, `t0`, outside PlayingBack, and `t0` is what is kept as the normal one. -/
def ThresholdKept (t0 : ℚ) (o : AudioSessionOrchestrator) : Prop :=
  (o.state ≠ .playingBack → o.vad.threshold = t0) ∧ o.normalVadThreshold = t0

/-- A step that loses a threshold other than the barge-in one: from PlayingBack, another "speaking" saves the raised
threshold as the normal one, and an exit to Idle does not restore it. -/
def LosesThreshold (t0 : ℚ) (o : AudioSessionOrchestrator) (e : Event) : Prop :=
  t0 ≠ kBargeInVadThreshold ∧ o.state = .playingBack ∧ (e.parks = true ∨ e = .speakingStateChanged "speaking")

/-- What the thresholds are while none is lost: raised in PlayingBack. -/
def ThresholdInv (t0 : ℚ) (o : AudioSessionOrchestrator) : Prop :=
  o.vad.threshold = (if o.state = .playingBack then kBargeInVadThreshold else t0) ∧ o.normalVadThreshold = t0

/-- Under the invariant the threshold is kept. -/
theorem ThresholdInv.kept {t0 : ℚ} {o : AudioSessionOrchestrator} (h : ThresholdInv t0 o) : ThresholdKept t0 o :=
  ⟨fun hs => by rw [h.1, if_neg hs], h.2⟩

/-- During a reply only another start of speaking is a move to play back. -/
theorem move_playBack_iff (env : Env) {o : AudioSessionOrchestrator} (hs : o.state = .playingBack) (e : Event) :
    move env o e = .playBack ↔ e = .speakingStateChanged "speaking" := by
  cases e with
  | speakingStateChanged state =>
    by_cases h : state = "speaking"
    · simp [move, hs, h]
    · by_cases h' : state = "idle" <;> simp [move, hs, h, h']
  | bargeInTimeout preRoll wasSpeaking => cases hd : due o.bargeInTimer o.now <;> simp [move, hs, hd]
  | _ => simp [move, hs]

/-- One step keeps the thresholds, unless it is one that loses them. -/
theorem thresholdInv_step (env : Env) {t0 : ℚ} {o : AudioSessionOrchestrator} {e : Event} (h : ThresholdInv t0 o)
    (hkeep : ¬LosesThreshold t0 o e) : ThresholdInv t0 (step env o e) := by
  obtain ⟨hstate, -, -, -, hthresholds⟩ := step_spec env o e
  have hsource := move_source env o e
  have hpark := move_eq_park_iff env o e
  have hplay (hs : o.state = .playingBack) := move_playBack_iff env hs e
  have hvad : (step env o e).vad.threshold = ((move env o e).thresholds o).1 := by rw [← hthresholds]
  have hnormal : (step env o e).normalVadThreshold = ((move env o e).thresholds o).2 := by rw [← hthresholds]
  -- a move that would lose the threshold from PlayingBack is harmless when `t0` is the barge-in threshold
  have hsame (hs : o.state = .playingBack) (he : e.parks = true ∨ e = .speakingStateChanged "speaking") :
      t0 = kBargeInVadThreshold := by
    by_contra hne
    exact hkeep ⟨hne, hs, he⟩
  obtain ⟨hthreshold, hn⟩ := h
  rw [ThresholdInv, hstate, hvad, hnormal]
  cases hm : move env o e with rw [hm] at hsource
  | stay => exact ⟨hthreshold, hn⟩
  | sendFrame opusFrame => exact ⟨hthreshold, hn⟩
  | listen =>
    have hs : o.state = .idle := hsource
    simp [Move.target, Move.thresholds, hthreshold, hs, hn]
  | openStream first preRoll =>
    cases first with
    | wakeWordDetected timestamp confidence =>
      have hs : o.state = .awaitingWake := hsource
      simp [Move.target, Move.thresholds, hthreshold, hs, hn]
    | bargeIn interrupted => simp [Move.target, Move.thresholds, hn]
    | _ => exact hsource.elim
  | endStream reason playback =>
    have hs : o.state = .streaming := hsource
    cases playback <;> simp [Move.target, Move.thresholds, hthreshold, hs, hn]
  | playBack =>
    rcases hsource with hs | hs
    · simp [Move.target, Move.thresholds, hthreshold, hs]
    · simp [Move.target, Move.thresholds, hthreshold, hs, hsame hs (.inr ((hplay hs).1 hm))]
  | finish => simp [Move.target, Move.thresholds, hn]
  | park =>
    by_cases hs : o.state = .playingBack
    · simp [Move.target, Move.thresholds, hthreshold, hs, hn, hsame hs (.inl (hpark.1 hm))]
    · simp [Move.target, Move.thresholds, hthreshold, hs, hn]

/-- A step that loses the threshold leaves another one. -/
theorem not_thresholdKept_step (env : Env) {t0 : ℚ} {o : AudioSessionOrchestrator} {e : Event} (h : ThresholdInv t0 o)
    (hlose : LosesThreshold t0 o e) : ¬ThresholdKept t0 (step env o e) := by
  obtain ⟨hstate, -, -, -, hthresholds⟩ := step_spec env o e
  have hvad : (step env o e).vad.threshold = ((move env o e).thresholds o).1 := by rw [← hthresholds]
  have hnormal : (step env o e).normalVadThreshold = ((move env o e).thresholds o).2 := by rw [← hthresholds]
  obtain ⟨hne, hs, he⟩ := hlose
  have hraised : o.vad.threshold = kBargeInVadThreshold := by rw [h.1, if_pos hs]
  rintro ⟨hkept, hn⟩
  rcases he with he | he
  · rw [hstate, hvad, (move_eq_park_iff env o e).2 he] at hkept
    exact hne ((hkept nofun).symm.trans hraised)
  · rw [hnormal, (move_playBack_iff env hs e).2 he] at hn
    exact hne (hn.symm.trans hraised)

/-- In every run from the construction of the orchestrator on, the threshold is `t0` outside PlayingBack and `t0` stays
the normal one, exactly when no step of the run is one that loses it. -/
theorem threshold_kept_iff (env : Env) (vad : SileroVad) (wsClient : PairionWebSocketClient) (connState : ConnectionState)
    (es : List Event) :
    Always (step env) (ThresholdKept vad.threshold) (create vad wsClient connState) es ↔
      EveryStep (step env) (fun o e => ¬LosesThreshold vad.threshold o e) (create vad wsClient connState) es := by
  refine always_iff_everyStep (fun _ => True) (ThresholdInv vad.threshold) (fun _ h => h.kept) ?_ ?_ (fun _ _ => trivial)
    ⟨rfl, rfl⟩
  · exact fun o e _ hinv hkeep => thresholdInv_step env hinv hkeep
  · exact fun o e _ hinv hlose => not_thresholdKept_step env hinv (not_not.1 hlose)

/-- The connection is lost while the reply is played: the orchestrator is in Idle with the raised threshold. -/
theorem threshold_kept_false :
    ¬∀ (env : Env) (vad : SileroVad) (wsClient : PairionWebSocketClient) (connState : ConnectionState) (es : List Event),
      Always (step env) (ThresholdKept vad.threshold) (create vad wsClient connState) es := by
  intro h
  have hkept := h .silence {} { socket := .connected } {} [.startListening, .speakingStateChanged "speaking", .wsDisconnected]
    _ (List.prefix_refl _)
  have hlost : kBargeInVadThreshold = (1 / 2 : ℚ) := hkept.1 (by decide)
  exact absurd hlost (by decide +kernel)

end AudioSessionOrchestrator

end PairionClient
