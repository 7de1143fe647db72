import PairionClient.Lemmas.Moves
import PairionClient.Pipeline.BargeInFilter

namespace PairionClient

namespace AudioSessionOrchestrator

open Sounds

/-! ## The under-breath filter -/

/-- The windows as the VAD at a threshold sees them: when, and whether at or above it. -/
def marks (threshold : ℚ) (ws : List InferenceWindow) : List Window :=
  ws.map fun w => (w.time, decide (SileroVad.speechProb w.outputs ≥ threshold))

theorem marks_cons (threshold : ℚ) (w : InferenceWindow) (ws : List InferenceWindow) :
    marks threshold (w :: ws) = (w.time, decide (SileroVad.speechProb w.outputs ≥ threshold)) :: marks threshold ws := rfl

/-- Marks are in the order of time of their windows. -/
theorem marks_sorted (threshold : ℚ) {ws : List InferenceWindow} (hsorted : ws.Pairwise fun v w => v.time ≤ w.time) :
    (marks threshold ws).Pairwise fun v w => v.1 ≤ w.1 :=
  List.pairwise_map.2 hsorted

def isBargeIn : WireFrame → Bool
  | .text (.bargeIn _) => true
  | _ => false

/-- The orchestrator is in PlayingBack, and has sent no BargeIn since it had sent `n` of them. -/
def Undisturbed (n : Nat) (o : AudioSessionOrchestrator) : Prop :=
  o.state = .playingBack ∧ o.wsClient.sent.countP isBargeIn = n

/-- What stays the same for as long as no BargeIn is sent. -/
structure Hearing (S : Int) (B : Nat) (threshold : ℚ) (n : Nat) (o : AudioSessionOrchestrator) : Prop where
  undisturbed : Undisturbed n o
  silenceEndMs : o.vad.silenceEndMs = S
  interval : o.bargeInTimerIntervalMs = B
  threshold : o.vad.threshold = threshold

/-- The VAD hears nothing, and no timer runs. -/
def AtRest (o : AudioSessionOrchestrator) : Prop := o.vad.state = .idle ∧ o.bargeInTimer = none

/-- A sound whose deadline is `d`, quiet since `acc`. -/
def InSound (d : Nat) (acc : Option Nat) (o : AudioSessionOrchestrator) : Prop :=
  o.bargeInTimer = some d ∧
    match acc with
    | none => o.vad.state = .speaking
    | some q => o.vad.state = .trailing ∧ o.vad.silenceTimer = q

/-! ### Out of PlayingBack -/

/-- The timer that runs out takes the orchestrator out of PlayingBack. -/
theorem state_expire (F : FilterEnv) {d : Nat} {o : AudioSessionOrchestrator} (ht : o.bargeInTimer = some d) :
    (o.expire F d).state ≠ .playingBack := by
  have hdue : due o.bargeInTimer d = true := by simp [due, ht]
  rw [expire, (step_spec F.toEnv _ _).state]
  by_cases hs : o.state = .playingBack
  · simp [move, hdue, hs, Move.target]
  · simp [move, hs, Move.target]

/-- No signal of the VAD starts a reply. -/
theorem state_onVadSignal {o : AudioSessionOrchestrator} (hs : o.state ≠ .playingBack) (signal : VadSignal) :
    (o.onVadSignal signal).state ≠ .playingBack := by
  cases signal with
  | speechStarted =>
    rw [onVadSignal, onVadSpeechStarted, if_pos hs]
    exact hs
  | speechEnded =>
    rw [onVadSignal, onSpeechEnded]
    split
    · rename_i h
      rw [endStream_eq "normal" h]
      exact (by decide : PipelineState.awaitingWake ≠ .playingBack)
    · exact hs

theorem state_foldl_onVadSignal (signals : List VadSignal) {o : AudioSessionOrchestrator} (hs : o.state ≠ .playingBack) :
    (signals.foldl onVadSignal o).state ≠ .playingBack := by
  induction signals generalizing o with
  | nil => exact hs
  | cons signal signals ih => exact ih (state_onVadSignal hs signal)

/-- Windows do not bring the orchestrator back to PlayingBack. -/
theorem state_onWindow (F : FilterEnv) {o : AudioSessionOrchestrator} (hs : o.state ≠ .playingBack) (w : InferenceWindow) :
    (o.onWindow F w).state ≠ .playingBack := by
  have hadvance : (o.advance F w.time).state ≠ .playingBack := by
    unfold advance
    split
    · exact hs
    · split
      · exact hs
      · exact state_expire F ‹_›
  exact state_foldl_onVadSignal _ hadvance

theorem state_hear (F : FilterEnv) {o : AudioSessionOrchestrator} (hs : o.state ≠ .playingBack) (ws : List InferenceWindow) :
    (o.hear F ws).state ≠ .playingBack := by
  have hfold : (ws.foldl (onWindow F) o).state ≠ .playingBack := by
    induction ws generalizing o with
    | nil => exact hs
    | cons w ws ih => exact ih (state_onWindow F hs w)
  unfold hear settle
  split
  · exact hfold
  · exact state_expire F ‹_›

/-! ### A window in PlayingBack -/

/-- The inference changes the recurrent state and then makes its transition. -/
theorem runInference_eq (now : Nat) (outputs : List (List ℚ)) (v : SileroVad) :
    ∃ recurrent, v.runInference now outputs =
      SileroVad.transition now (SileroVad.speechProb outputs) { v with recurrentState := recurrent } := by
  unfold SileroVad.runInference
  split
  · exact ⟨_, rfl⟩
  · exact ⟨v.recurrentState, rfl⟩

/-- Until the deadline, time passes and nothing else. -/
theorem advance_before (F : FilterEnv) {time : Nat} {o : AudioSessionOrchestrator}
    (h : ∀ d, o.bargeInTimer = some d → Before F.windowFirst time d) : o.advance F time = { o with now := time } := by
  unfold advance
  split
  · rfl
  · rw [if_pos (h _ ‹_›)]

section

variable {S : Int} {B : Nat} {threshold : ℚ} {n : Nat}

/-- From rest, a loud window starts a sound and the timer, and a quiet one changes nothing. -/
theorem onWindow_atRest (F : FilterEnv) {o : AudioSessionOrchestrator} (h : Hearing S B threshold n o) (hr : AtRest o)
    (w : InferenceWindow) :
    Hearing S B threshold n (o.onWindow F w) ∧
      if SileroVad.speechProb w.outputs ≥ threshold then InSound (w.time + B) none (o.onWindow F w)
      else AtRest (o.onWindow F w) := by
  obtain ⟨⟨hs, hn⟩, hS, rfl, rfl⟩ := h
  obtain ⟨hv, ht⟩ := hr
  obtain ⟨recurrent, hrun⟩ := runInference_eq w.time w.outputs o.vad
  rw [onWindow, advance_before F (by simp [ht])]
  rw [SileroVad.transition, show ({ o.vad with recurrentState := recurrent } : SileroVad).state = .idle from hv] at hrun
  simp only [hrun]
  split
  · rw [List.foldl_cons, List.foldl_nil, onVadSignal, onVadSpeechStarted, if_neg (not_not.2 hs)]
    exact ⟨⟨⟨hs, hn⟩, hS, rfl, rfl⟩, rfl, rfl⟩
  · exact ⟨⟨⟨hs, hn⟩, hS, rfl, rfl⟩, rfl, ht⟩

/-- In a sound whose deadline has not come, a loud window goes on with it, and a quiet one ends it when the silence is
long enough. -/
theorem onWindow_inSound (F : FilterEnv) {o : AudioSessionOrchestrator} (h : Hearing S B threshold n o) {d : Nat}
    {acc : Option Nat} (hd : InSound d acc o) {w : InferenceWindow} (hbefore : Before F.windowFirst w.time d) :
    Hearing S B threshold n (o.onWindow F w) ∧
      if SileroVad.speechProb w.outputs ≥ threshold then InSound d none (o.onWindow F w)
      else
        match acc with
        | none => InSound d (some w.time) (o.onWindow F w)
        | some q => if S ≤ (w.time : Int) - q then AtRest (o.onWindow F w) else InSound d (some q) (o.onWindow F w) := by
  obtain ⟨⟨hs, hn⟩, rfl, hB, rfl⟩ := h
  obtain ⟨ht, hv⟩ := hd
  obtain ⟨recurrent, hrun⟩ := runInference_eq w.time w.outputs o.vad
  rw [onWindow, advance_before F (by rintro d' hd'; rwa [Option.some.inj (hd'.symm.trans ht)])]
  cases acc with
  | none =>
    rw [SileroVad.transition, show ({ o.vad with recurrentState := recurrent } : SileroVad).state = .speaking from hv] at hrun
    simp only [hrun]
    by_cases hloud : SileroVad.speechProb w.outputs ≥ o.vad.threshold
    · have hnotless : ¬SileroVad.speechProb w.outputs < o.vad.threshold := Rat.not_lt.2 hloud
      simp only [if_neg hnotless, if_pos hloud]
      exact ⟨⟨⟨hs, hn⟩, rfl, hB, rfl⟩, ht, rfl⟩
    · have hless : SileroVad.speechProb w.outputs < o.vad.threshold := Rat.not_le.1 hloud
      simp only [if_pos hless, if_neg hloud]
      exact ⟨⟨⟨hs, hn⟩, rfl, hB, rfl⟩, ht, rfl, rfl⟩
  | some q =>
    obtain ⟨hv, rfl⟩ := hv
    rw [SileroVad.transition, show ({ o.vad with recurrentState := recurrent } : SileroVad).state = .trailing from hv] at hrun
    simp only [hrun]
    by_cases hloud : SileroVad.speechProb w.outputs ≥ o.vad.threshold
    · simp only [if_pos hloud]
      exact ⟨⟨⟨hs, hn⟩, rfl, hB, rfl⟩, ht, rfl⟩
    · by_cases hsilence : (w.time : Int) - o.vad.silenceTimer ≥ o.vad.silenceEndMs
      · simp only [if_neg hloud, if_pos hsilence]
        rw [List.foldl_cons, List.foldl_nil, onVadSignal, onSpeechEnded, if_neg (by simp [hs]), if_pos hs]
        exact ⟨⟨⟨hs, hn⟩, rfl, hB, rfl⟩, rfl, rfl⟩
      · simp only [if_neg hloud, if_neg hsilence]
        exact ⟨⟨⟨hs, hn⟩, rfl, hB, rfl⟩, ht, rfl, rfl⟩

/-- When its deadline has come before the window, the orchestrator leaves PlayingBack. -/
theorem onWindow_expired (F : FilterEnv) {o : AudioSessionOrchestrator} {d : Nat} (ht : o.bargeInTimer = some d)
    {w : InferenceWindow} (hbefore : ¬Before F.windowFirst w.time d) : (o.onWindow F w).state ≠ .playingBack := by
  rw [onWindow, advance]
  simp only [ht, if_neg hbefore]
  exact state_foldl_onVadSignal _ (state_expire F ht)

/-- Outside a reply it is disturbed. -/
theorem not_undisturbed (n : Nat) {o : AudioSessionOrchestrator} (hs : o.state ≠ .playingBack) : ¬Undisturbed n o :=
  fun h => hs h.1

theorem hear_cons (F : FilterEnv) (o : AudioSessionOrchestrator) (w : InferenceWindow) (ws : List InferenceWindow) :
    o.hear F (w :: ws) = (o.onWindow F w).hear F ws := rfl

/-- The filter, window by window, is `idleInTime` from rest and `soundInTime` in a sound. -/
theorem hear_iff (F : FilterEnv) {ws : List InferenceWindow} (hsorted : ws.Pairwise fun v w => v.time ≤ w.time)
    {o : AudioSessionOrchestrator} (h : Hearing S B threshold n o) :
    (AtRest o → (Undisturbed n (o.hear F ws) ↔ idleInTime S B F.windowFirst (marks threshold ws) = true)) ∧
      ∀ d acc, InSound d acc o →
        (Undisturbed n (o.hear F ws) ↔ soundInTime S B F.windowFirst d acc (marks threshold ws) = true) := by
  induction ws generalizing o with
  | nil =>
    refine ⟨fun hr => ?_, fun d acc hd => ?_⟩
    · have hquiet : o.hear F [] = o := by simp [hear, settle, hr.2]
      simp [hquiet, h.undisturbed, marks, idleInTime]
    · have hexpired : o.hear F [] = o.expire F d := by simp [hear, settle, hd.1]
      simp [hexpired, not_undisturbed n (state_expire F hd.1), marks, soundInTime]
  | cons w ws ih =>
    obtain ⟨hfirst, hrest⟩ := List.pairwise_cons.1 hsorted
    rw [hear_cons, marks_cons]
    refine ⟨fun hr => ?_, fun d acc hd => ?_⟩
    · obtain ⟨h', hw⟩ := onWindow_atRest F h hr w
      by_cases hloud : SileroVad.speechProb w.outputs ≥ threshold
      · rw [if_pos hloud] at hw
        rw [(ih hrest h').2 _ _ hw, decide_eq_true hloud, idleInTime]
      · rw [if_neg hloud] at hw
        rw [(ih hrest h').1 hw, decide_eq_false hloud, idleInTime]
    · by_cases hbefore : Before F.windowFirst w.time d
      · obtain ⟨h', hw⟩ := onWindow_inSound F h hd hbefore
        by_cases hloud : SileroVad.speechProb w.outputs ≥ threshold
        · rw [if_pos hloud] at hw
          rw [(ih hrest h').2 _ _ hw, decide_eq_true hloud, soundInTime]
        · rw [if_neg hloud] at hw
          rw [decide_eq_false hloud]
          cases acc with
          | none => exact (ih hrest h').2 _ _ hw
          | some q =>
            rw [soundInTime]
            by_cases hsilence : S ≤ (w.time : Int) - q
            · simp only [if_pos hsilence] at hw
              simp only [if_pos hsilence, hbefore, decide_true, Bool.true_and]
              exact (ih hrest h').1 hw
            · simp only [if_neg hsilence] at hw
              simp only [if_neg hsilence]
              exact (ih hrest h').2 _ _ hw
      · -- the timer ran out before this window, and so before every window that could end the sound
        have hleft : ¬Undisturbed n ((o.onWindow F w).hear F ws) :=
          not_undisturbed n (state_hear F (onWindow_expired F hd.1 hbefore) ws)
        rw [← marks_cons, soundInTime_eq_false (marks_sorted threshold hsorted)]
        · simp [hleft]
        · intro v hv hv'
          obtain ⟨u, hu, rfl⟩ := List.mem_map.1 hv
          rcases List.mem_cons.1 hu with rfl | hu
          · exact hbefore hv'
          · exact hbefore (before_of_le (hfirst u hu) hv')

end

/-! ### Every sequence of windows -/

/-- From rest in PlayingBack: no BargeIn is sent and the orchestrator stays in PlayingBack exactly when each sound is
ended by the VAD's silence before the timer of that sound runs out. -/
theorem under_breath_filtered_iff (F : FilterEnv) {o : AudioSessionOrchestrator} (hs : o.state = .playingBack)
    (hr : AtRest o) {ws : List InferenceWindow} (hsorted : ws.Pairwise fun v w => v.time ≤ w.time) :
    Undisturbed (o.wsClient.sent.countP isBargeIn) (o.hear F ws) ↔
      InTime o.vad.silenceEndMs o.bargeInTimerIntervalMs F.windowFirst (marks o.vad.threshold ws) := by
  have hhearing : Hearing o.vad.silenceEndMs o.bargeInTimerIntervalMs o.vad.threshold (o.wsClient.sent.countP isBargeIn) o :=
    ⟨⟨hs, rfl⟩, rfl, rfl, rfl⟩
  rw [(hear_iff F hsorted hhearing).1 hr, (idleInTime_iff (marks_sorted _ hsorted)).1]

/-- With a silence longer than the timer, any sound at all ends the playback. -/
theorem not_undisturbed_of_loud (F : FilterEnv) {o : AudioSessionOrchestrator} (hs : o.state = .playingBack) (hr : AtRest o)
    (hlong : (o.bargeInTimerIntervalMs : Int) < o.vad.silenceEndMs) {ws : List InferenceWindow}
    (hsorted : ws.Pairwise fun v w => v.time ≤ w.time) (hloud : ¬Quiet (marks o.vad.threshold ws)) :
    ¬Undisturbed (o.wsClient.sent.countP isBargeIn) (o.hear F ws) := by
  have hhearing : Hearing o.vad.silenceEndMs o.bargeInTimerIntervalMs o.vad.threshold (o.wsClient.sent.countP isBargeIn) o :=
    ⟨⟨hs, rfl⟩, rfl, rfl, rfl⟩
  rw [(hear_iff F hsorted hhearing).1 hr, (idleInTime_iff (marks_sorted _ hsorted)).1]
  exact not_inTime_of_lt hlong (marks_sorted _ hsorted) hloud

/-- A client in PlayingBack with a VAD at its default silence of 800 ms, or with a shorter one. -/
def replying (silenceEndMs : Int) : AudioSessionOrchestrator :=
  (create { silenceEndMs := silenceEndMs } { socket := .connected } {}).startListening.onSpeakingStateChanged "speaking"

def quietRoom : FilterEnv := { Env.silence with preRoll := [], wasSpeaking := true, windowFirst := true }

/-- One loud window, then quiet ones: the VAD's silence of 200 ms ends in time. -/
theorem under_breath_filtered_iff_cough :
    Undisturbed 0 ((replying 200).hear quietRoom [⟨0, [[9 / 10]]⟩, ⟨32, [[1 / 10]]⟩, ⟨256, [[1 / 10]]⟩]) :=
  (under_breath_filtered_iff quietRoom (by decide) ⟨by decide, by decide⟩ (by decide)).2
    ((idleInTime_iff (by decide +kernel)).1.1 (by decide +kernel))

/-- A cough of one window: at the default silence the VAD reports its end only after the timer has run out. -/
theorem under_breath_filtered_false :
    ¬∀ (F : FilterEnv) (o : AudioSessionOrchestrator) (w : InferenceWindow) (ws : List InferenceWindow),
      o.state = .playingBack → AtRest o → 0 < o.vad.silenceEndMs → ((w :: ws).Pairwise fun v w => v.time ≤ w.time) →
        SileroVad.speechProb w.outputs ≥ o.vad.threshold →
          (∀ v ∈ ws, SileroVad.speechProb v.outputs ≥ o.vad.threshold → v.time < w.time + o.bargeInTimerIntervalMs) →
            Undisturbed (o.wsClient.sent.countP isBargeIn) (o.hear F (w :: ws)) := by
  intro h
  have hcough := h quietRoom (replying 800) ⟨0, [[9 / 10]]⟩ [⟨32, [[1 / 10]]⟩, ⟨832, [[1 / 10]]⟩] (by decide)
    ⟨by decide, by decide⟩ (by decide) (by decide) (by decide +kernel) (by decide +kernel)
  exact absurd hcough.1 (by decide +kernel)

end AudioSessionOrchestrator

end PairionClient
