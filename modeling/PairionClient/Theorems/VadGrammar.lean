import Mathlib.Algebra.Order.Group.Int
import PairionClient.Lib.Run
import PairionClient.Vad.SileroVad

/-!
# The events of the detector

What the windows of inference since the last reset have to say about the events emitted in them. The three states of the
detector are three things that can be said of these windows: no speech is open; one is, and the last window was not below the
threshold; one is, and the windows have been below it since the instant that the silence timer holds.
-/

namespace PairionClient

open Transition

namespace SileroVad

/-- What a window of inference leaves: when it was, whether the probability was below the threshold then in force, and
what was emitted. -/
structure Heard where
  time : Nat
  below : Bool
  signals : List VadSignal

/-- A detector with its clock, and the windows since the last reset. -/
structure Hearing where
  vad : SileroVad
  now : Nat
  heard : List Heard := []

namespace Hearing

/-- A window of inference some time after the last one, and the calls that can come between two windows. -/
inductive Event where
  | window (elapsed : Nat) (outputs : List (List ℚ))
  | setThreshold (threshold : ℚ)
  | reset

def step (h : Hearing) : Event → Hearing
  | .window elapsed outputs =>
    let now := h.now + elapsed
    let r := h.vad.runInference now outputs
    { vad := r.1, now := now, heard := h.heard ++ [⟨now, decide (speechProb outputs < h.vad.threshold), r.2⟩] }
  | .setThreshold threshold => { h with vad := h.vad.setThreshold threshold }
  | .reset => { h with vad := h.vad.reset, heard := [] }

end Hearing

/-! ## What the windows say -/

variable {S : Int} {ws : List Heard} {x : Heard} {s j k : Nat} {p : Heard → Prop}

/-- The window with the number `k` is there and has the property. -/
def At (ws : List Heard) (k : Nat) (p : Heard → Prop) : Prop := ∃ w, ws[k]? = some w ∧ p w

def Starts (ws : List Heard) (s : Nat) : Prop := At ws s fun w => .speechStarted ∈ w.signals

def Ends (ws : List Heard) (j : Nat) : Prop := At ws j fun w => .speechEnded ∈ w.signals

/-- After the window `s` and before `j` there is one from which on all up to `j` are below the threshold, and at `j` it
was at least `S` ago. -/
def Silence (S : Int) (ws : List Heard) (s j : Nat) : Prop :=
  ∃ w, s < w ∧ w < j ∧ (∀ k, w ≤ k → k ≤ j → At ws k (·.below = true)) ∧
    ∃ first last, ws[w]? = some first ∧ ws[j]? = some last ∧ S ≤ (last.time : Int) - first.time

/-- The signals are started, ended, started and so on, from `first` on. -/
def Alternates : VadSignal → List VadSignal → Prop
  | _, [] => True
  | .speechStarted, signal :: signals => signal = .speechStarted ∧ Alternates .speechEnded signals
  | .speechEnded, signal :: signals => signal = .speechEnded ∧ Alternates .speechStarted signals

/-- The events alternate; speech ends at the first window at which the silence after its start has been long enough, and
nowhere else. -/
structure Grammar (S : Int) (ws : List Heard) : Prop where
  alternates : Alternates .speechStarted (ws.flatMap (·.signals))
  silence : ∀ j, Ends ws j →
    ∃ s < j, Starts ws s ∧ (∀ k, s < k → k < j → At ws k (·.signals = [])) ∧ Silence S ws s j
  first : ∀ s j, Starts ws s → Silence S ws s j → (∀ i, s < i → i < j → ¬Silence S ws s i) → Ends ws j

/-! ## One more window -/

/-- A window that is there has a number below their count. -/
theorem At.lt (h : At ws k p) : k < ws.length := by
  obtain ⟨w, hw, -⟩ := h
  exact (List.getElem?_eq_some_iff.1 hw).1

theorem at_append (hk : k < ws.length) : At (ws ++ [x]) k p ↔ At ws k p := by
  unfold At
  rw [List.getElem?_append_left hk]

/-- The last window has their count as its number. -/
theorem at_last : At (ws ++ [x]) ws.length p ↔ p x := by
  unfold At
  simp

theorem silence_append (hj : j < ws.length) : Silence S (ws ++ [x]) s j ↔ Silence S ws s j := by
  unfold Silence
  refine exists_congr fun w => and_congr_right fun _ => and_congr_right fun hw => ?_
  rw [List.getElem?_append_left (Nat.lt_trans hw hj), List.getElem?_append_left hj]
  refine and_congr_left fun _ => forall_congr' fun k => imp_congr_right fun _ => ⟨fun h hk => ?_, fun h hk => ?_⟩
  · exact (at_append (Nat.lt_of_le_of_lt hk hj)).1 (h hk)
  · exact (at_append (Nat.lt_of_le_of_lt hk hj)).2 (h hk)

/-- A silence is after its start, and within the windows. -/
theorem Silence.lt (h : Silence S ws s j) : s < j ∧ j < ws.length := by
  obtain ⟨w, hsw, hwj, hbelow, -⟩ := h
  exact ⟨Nat.lt_trans hsw hwj, (hbelow j (Nat.le_of_lt hwj) (Nat.le_refl j)).lt⟩

/-- A window at or above the threshold ends no silence. -/
theorem not_silence_last (hx : x.below = false) : ¬Silence S (ws ++ [x]) s ws.length := by
  rintro ⟨w, -, hw, hbelow, -⟩
  have hlast := at_last.1 (hbelow ws.length (Nat.le_of_lt hw) (Nat.le_refl _))
  rw [hx] at hlast
  exact absurd hlast (by decide)

theorem starts_append (h : Starts (ws ++ [x]) s) : Starts ws s ∨ (s = ws.length ∧ .speechStarted ∈ x.signals) := by
  have hlt := At.lt h
  rw [List.length_append, List.length_singleton] at hlt
  rcases Nat.lt_or_eq_of_le (Nat.lt_succ_iff.1 hlt) with hs | rfl
  · exact .inl ((at_append hs).1 h)
  · exact .inr ⟨rfl, at_last.1 h⟩

/-- What is to be shown of a window that is added. -/
theorem grammar_append (h : Grammar S ws) (halternates : Alternates .speechStarted (ws.flatMap (·.signals) ++ x.signals))
    (hsilence : .speechEnded ∈ x.signals → ∃ s, Starts ws s ∧ (∀ k, s < k → k < ws.length → At ws k (·.signals = [])) ∧
      Silence S (ws ++ [x]) s ws.length)
    (hfirst : ∀ s, Starts ws s → Silence S (ws ++ [x]) s ws.length → (∀ i, s < i → i < ws.length → ¬Silence S ws s i) →
      .speechEnded ∈ x.signals) : Grammar S (ws ++ [x]) := by
  refine ⟨?_, ?_, ?_⟩
  · rw [List.flatMap_append, List.flatMap_singleton]
    exact halternates
  · intro j hj
    have hlt := At.lt hj
    rw [List.length_append, List.length_singleton] at hlt
    rcases Nat.lt_or_eq_of_le (Nat.lt_succ_iff.1 hlt) with hlt | rfl
    · obtain ⟨s, hs, hstarts, hquiet, hsil⟩ := h.silence j ((at_append hlt).1 hj)
      refine ⟨s, hs, (at_append (Nat.lt_trans hs hlt)).2 hstarts, fun k hsk hkj => ?_, (silence_append hlt).2 hsil⟩
      exact (at_append (Nat.lt_trans hkj hlt)).2 (hquiet k hsk hkj)
    · obtain ⟨s, hstarts, hquiet, hsil⟩ := hsilence (at_last.1 hj)
      refine ⟨s, hstarts.lt, (at_append hstarts.lt).2 hstarts, fun k hsk hkj => ?_, hsil⟩
      exact (at_append hkj).2 (hquiet k hsk hkj)
  · intro s j hstarts hsil hmin
    obtain ⟨hsj, hlt⟩ := hsil.lt
    rw [List.length_append, List.length_singleton] at hlt
    have hstarts : Starts ws s := (at_append (by omega)).1 hstarts
    rcases Nat.lt_or_eq_of_le (Nat.lt_succ_iff.1 hlt) with hlt | rfl
    · refine (at_append hlt).2 (h.first s j hstarts ((silence_append hlt).1 hsil) fun i hsi hij hi => ?_)
      exact hmin i hsi hij ((silence_append (Nat.lt_trans hij hlt)).2 hi)
    · refine at_last.2 (hfirst s hstarts hsil fun i hsi hij hi => ?_)
      exact hmin i hsi hij ((silence_append hij).2 hi)

/-! ## Where the detector stands -/

/-- The signal that comes next. -/
def expected : VadSignal → List VadSignal → VadSignal
  | first, [] => first
  | .speechStarted, _ :: signals => expected .speechEnded signals
  | .speechEnded, _ :: signals => expected .speechStarted signals

/-- Signals that alternate do so with the one expected next. -/
theorem alternates_expected {first : VadSignal} {signals : List VadSignal} (h : Alternates first signals) :
    Alternates first (signals ++ [expected first signals]) := by
  induction signals generalizing first with
  | nil => cases first <;> exact ⟨rfl, trivial⟩
  | cons signal signals ih =>
    cases first with
    | speechStarted => exact ⟨h.1, ih h.2⟩
    | speechEnded => exact ⟨h.1, ih h.2⟩

theorem expected_append (first signal : VadSignal) (signals : List VadSignal) :
    expected first (signals ++ [signal]) =
      if expected first signals = .speechStarted then .speechEnded else .speechStarted := by
  induction signals generalizing first with
  | nil => cases first <;> rfl
  | cons s signals ih =>
    cases first with
    | speechStarted => exact ih .speechEnded
    | speechEnded => exact ih .speechStarted

/-- The signal that comes after the windows. -/
def due (ws : List Heard) : VadSignal := expected .speechStarted (ws.flatMap (·.signals))

/-- Under the grammar the signal that is due may come next. -/
theorem alternates_due (h : Grammar S ws) {signal : VadSignal} (hdue : due ws = signal) :
    Alternates .speechStarted (ws.flatMap (·.signals) ++ [signal]) := by
  subst hdue
  exact alternates_expected h.alternates

/-- The speech that started at `s` has had its silence. -/
def Closed (S : Int) (ws : List Heard) (s : Nat) : Prop := ∃ i, s < i ∧ i < ws.length ∧ Silence S ws s i

/-- The speech that started at `s` has not, and it is the only one. -/
structure Open (S : Int) (ws : List Heard) (s : Nat) : Prop where
  starts : Starts ws s
  quiet : ∀ k, s < k → k < ws.length → At ws k (·.signals = [])
  noSilence : ∀ i, s < i → i < ws.length → ¬Silence S ws s i
  others : ∀ s', Starts ws s' → s' ≠ s → Closed S ws s'

/-- What the state of the detector says about the windows. -/
def Phase (S : Int) (ws : List Heard) (state : VadState) (silenceTimer : Nat) : Prop :=
  match state with
  | .idle => due ws = .speechStarted ∧ ∀ s, Starts ws s → Closed S ws s
  | .speaking => due ws = .speechEnded ∧ ∃ s, Open S ws s ∧ At ws (ws.length - 1) (·.below = false)
  | .trailing =>
    due ws = .speechEnded ∧ ∃ s w, Open S ws s ∧ s < w ∧ At ws (w - 1) (·.below = false) ∧
      (∀ k, w ≤ k → k < ws.length → At ws k (·.below = true)) ∧ At ws w (·.time = silenceTimer)

/-- A speech that has had its silence has had it. -/
theorem Closed.append (h : Closed S ws s) (x : Heard) : Closed S (ws ++ [x]) s := by
  obtain ⟨i, hsi, hi, hsil⟩ := h
  refine ⟨i, hsi, ?_, (silence_append hi).2 hsil⟩
  rw [List.length_append]
  omega

theorem due_append_nil (hx : x.signals = []) : due (ws ++ [x]) = due ws := by
  unfold due
  rw [List.flatMap_append, List.flatMap_singleton, hx, List.append_nil]

theorem due_append (signal : VadSignal) (hx : x.signals = [signal]) :
    due (ws ++ [x]) = if due ws = .speechStarted then .speechEnded else .speechStarted := by
  unfold due
  rw [List.flatMap_append, List.flatMap_singleton, hx, expected_append]

/-- A window without signals leaves the speech open, unless its silence is long enough there. -/
theorem Open.append (h : Open S ws s) (hx : x.signals = []) (hsil : ¬Silence S (ws ++ [x]) s ws.length) :
    Open S (ws ++ [x]) s := by
  refine ⟨(at_append h.starts.lt).2 h.starts, ?_, ?_, ?_⟩
  · intro k hsk hk
    rw [List.length_append, List.length_singleton] at hk
    rcases Nat.lt_or_eq_of_le (Nat.lt_succ_iff.1 hk) with hk | rfl
    · exact (at_append hk).2 (h.quiet k hsk hk)
    · exact at_last.2 hx
  · intro i hsi hi
    rw [List.length_append, List.length_singleton] at hi
    rcases Nat.lt_or_eq_of_le (Nat.lt_succ_iff.1 hi) with hi | rfl
    · exact fun hs => h.noSilence i hsi hi ((silence_append hi).1 hs)
    · exact hsil
  · intro s' hs' hne
    rcases starts_append hs' with hs' | ⟨-, hmem⟩
    · exact (h.others s' hs' hne).append x
    · rw [hx] at hmem
      exact absurd hmem List.not_mem_nil

/-- A window without a signal keeps the grammar, when it is not where an open speech should end. -/
theorem grammar_append_nil (h : Grammar S ws) (hx : x.signals = [])
    (hopen : ∀ s, Starts ws s → Closed S ws s ∨ ¬Silence S (ws ++ [x]) s ws.length) : Grammar S (ws ++ [x]) := by
  refine grammar_append h ?_ ?_ ?_
  · rw [hx, List.append_nil]
    exact h.alternates
  · intro hmem
    rw [hx] at hmem
    exact absurd hmem List.not_mem_nil
  · intro s hstarts hsil hmin
    rcases hopen s hstarts with ⟨i, hsi, hi, hs⟩ | hno
    · exact absurd hs (hmin i hsi hi)
    · exact absurd hsil hno

/-- While a speech is open, a window that does not end its silence keeps it open. -/
theorem open_append_nil (h : Grammar S ws) (hopen : Open S ws s) (hx : x.signals = [])
    (hsil : ¬Silence S (ws ++ [x]) s ws.length) : Grammar S (ws ++ [x]) ∧ Open S (ws ++ [x]) s := by
  refine ⟨grammar_append_nil h hx fun s' hs' => ?_, hopen.append hx hsil⟩
  by_cases hne : s' = s
  · exact .inr (hne ▸ hsil)
  · exact .inl (hopen.others s' hs' hne)

/-! ## A window -/

/-- A speech starts where none is open. -/
theorem phase_started (h : Grammar S ws) (hdue : due ws = .speechStarted) (hclosed : ∀ s, Starts ws s → Closed S ws s)
    (hx : x.signals = [.speechStarted]) (hbelow : x.below = false) (silenceTimer : Nat) :
    Grammar S (ws ++ [x]) ∧ Phase S (ws ++ [x]) .speaking silenceTimer := by
  have hlast : (ws ++ [x]).length = ws.length + 1 := by simp
  refine ⟨grammar_append h ?_ ?_ ?_, ?_, ws.length, ⟨?_, ?_, ?_, ?_⟩, ?_⟩
  · rw [hx]
    exact alternates_due h hdue
  · intro hmem
    rw [hx] at hmem
    simp at hmem
  · intro s hstarts _ hmin
    obtain ⟨i, hsi, hi, hs⟩ := hclosed s hstarts
    exact absurd hs (hmin i hsi hi)
  · rw [due_append _ hx, if_pos hdue]
  · exact at_last.2 (by rw [hx]; exact List.mem_cons_self)
  · intro k hk hk'
    omega
  · intro k hk hk'
    omega
  · intro s hs hne
    rcases starts_append hs with hs | ⟨heq, -⟩
    · exact (hclosed s hs).append x
    · exact absurd heq hne
  · rw [hlast, Nat.add_sub_cancel]
    exact at_last.2 hbelow

/-- A speech goes on, or is heard again. -/
theorem phase_speaking (h : Grammar S ws) (hdue : due ws = .speechEnded) (hopen : Open S ws s) (hx : x.signals = [])
    (hbelow : x.below = false) (silenceTimer : Nat) :
    Grammar S (ws ++ [x]) ∧ Phase S (ws ++ [x]) .speaking silenceTimer := by
  have hlast : (ws ++ [x]).length = ws.length + 1 := by simp
  obtain ⟨hgrammar, hopen'⟩ := open_append_nil h hopen hx (not_silence_last hbelow)
  refine ⟨hgrammar, by rw [due_append_nil hx, hdue], s, hopen', ?_⟩
  rw [hlast, Nat.add_sub_cancel]
  exact at_last.2 hbelow

/-- A silence begins after a window that was not below the threshold. -/
theorem phase_trailing (h : Grammar S ws) (hdue : due ws = .speechEnded) (hopen : Open S ws s)
    (hloud : At ws (ws.length - 1) (·.below = false)) (hx : x.signals = []) (hbelow : x.below = true) :
    Grammar S (ws ++ [x]) ∧ Phase S (ws ++ [x]) .trailing x.time := by
  have hpos := hloud.lt
  have hsil : ¬Silence S (ws ++ [x]) s ws.length := by
    rintro ⟨w, -, hw, hall, -⟩
    obtain ⟨v, hv, hfalse⟩ := hloud
    obtain ⟨v', hv', htrue⟩ := (at_append hpos).1 (hall (ws.length - 1) (by omega) (by omega))
    obtain rfl := Option.some.inj (hv.symm.trans hv')
    exact absurd (hfalse.symm.trans htrue) (by decide)
  obtain ⟨hgrammar, hopen'⟩ := open_append_nil h hopen hx hsil
  refine ⟨hgrammar, by rw [due_append_nil hx, hdue], s, ws.length, hopen', hopen.starts.lt, (at_append hpos).2 hloud, ?_,
    at_last.2 rfl⟩
  intro k hk hk'
  rw [List.length_append, List.length_singleton] at hk'
  obtain rfl : k = ws.length := by omega
  exact at_last.2 hbelow

/-- The silence of a speech that is open lasts at most since the window `w`. -/
theorem silence_last_le {w silenceTimer : Nat} (hsorted : ws.Pairwise fun v v' => v.time ≤ v'.time)
    (hloud : At ws (w - 1) (·.below = false)) (hw : 0 < w) (htimer : At ws w (·.time = silenceTimer))
    (h : Silence S (ws ++ [x]) s ws.length) : S ≤ (x.time : Int) - silenceTimer := by
  obtain ⟨w', -, hw', hall, first, last, hfirst, hlast, hlong⟩ := h
  obtain rfl : x = last := by simpa using hlast
  rw [List.getElem?_append_left hw'] at hfirst
  obtain ⟨v, hv, htime⟩ := htimer
  have hle : w ≤ w' := by
    by_contra hlt
    have hbefore := hloud.lt
    obtain ⟨u, hu, hfalse⟩ := hloud
    obtain ⟨u', hu', htrue⟩ := (at_append hbefore).1 (hall (w - 1) (by omega) (by omega))
    obtain rfl := Option.some.inj (hu.symm.trans hu')
    exact absurd (hfalse.symm.trans htrue) (by decide)
  have hmono : v.time ≤ first.time := by
    rcases Nat.lt_or_eq_of_le hle with hlt | rfl
    · obtain ⟨hvlt, rfl⟩ := List.getElem?_eq_some_iff.1 hv
      obtain ⟨hflt, rfl⟩ := List.getElem?_eq_some_iff.1 hfirst
      exact List.pairwise_iff_getElem.1 hsorted w w' hvlt hflt hlt
    · obtain rfl := Option.some.inj (hv.symm.trans hfirst)
      exact Nat.le_refl _
  omega

/-- One more window below the threshold, in a silence: it is too short still, or it ends the speech. -/
theorem phase_silent {w silenceTimer : Nat} (h : Grammar S ws) (hsorted : ws.Pairwise fun v v' => v.time ≤ v'.time)
    (hdue : due ws = .speechEnded) (hopen : Open S ws s) (hsw : s < w) (hloud : At ws (w - 1) (·.below = false))
    (hall : ∀ k, w ≤ k → k < ws.length → At ws k (·.below = true)) (htimer : At ws w (·.time = silenceTimer))
    (hbelow : x.below = true) :
    (x.signals = [] → (x.time : Int) - silenceTimer < S →
      Grammar S (ws ++ [x]) ∧ Phase S (ws ++ [x]) .trailing silenceTimer) ∧
    (x.signals = [.speechEnded] → S ≤ (x.time : Int) - silenceTimer →
      Grammar S (ws ++ [x]) ∧ Phase S (ws ++ [x]) .idle silenceTimer) := by
  have hall' : ∀ k, w ≤ k → k < (ws ++ [x]).length → At (ws ++ [x]) k (·.below = true) := by
    intro k hk hk'
    rw [List.length_append, List.length_singleton] at hk'
    rcases Nat.lt_or_eq_of_le (Nat.lt_succ_iff.1 hk') with hk' | rfl
    · exact (at_append hk').2 (hall k hk hk')
    · exact at_last.2 hbelow
  constructor
  · intro hx hshort
    have hsil : ¬Silence S (ws ++ [x]) s ws.length := by
      intro hsil
      have hlong := silence_last_le hsorted hloud (Nat.lt_of_le_of_lt (Nat.zero_le s) hsw) htimer hsil
      omega
    obtain ⟨hgrammar, hopen'⟩ := open_append_nil h hopen hx hsil
    exact ⟨hgrammar, by rw [due_append_nil hx, hdue], s, w, hopen', hsw, (at_append hloud.lt).2 hloud, hall',
      (at_append htimer.lt).2 htimer⟩
  · intro hx hlong
    have hsil : Silence S (ws ++ [x]) s ws.length := by
      have hlt := htimer.lt
      obtain ⟨v, hv, htime⟩ := htimer
      refine ⟨w, hsw, hlt, fun k hk hk' => hall' k hk (by rw [List.length_append, List.length_singleton]; omega), v, x, ?_, ?_, ?_⟩
      · rw [List.getElem?_append_left hlt, hv]
      · simp
      · rw [htime]
        exact hlong
    refine ⟨grammar_append h ?_ ?_ ?_, ?_, ?_⟩
    · rw [hx]
      exact alternates_due h hdue
    · exact fun _ => ⟨s, hopen.starts, hopen.quiet, hsil⟩
    · intro _ _ _ _
      rw [hx]
      exact List.mem_cons_self
    · rw [due_append _ hx, hdue]
      rfl
    · intro s' hs'
      rcases starts_append hs' with hs' | ⟨-, hmem⟩
      · by_cases hne : s' = s
        · rw [hne]
          exact ⟨ws.length, hopen.starts.lt, by simp, hsil⟩
        · exact (hopen.others s' hs' hne).append x
      · rw [hx] at hmem
        simp at hmem

/-- What a window does to the phase. -/
theorem phase_transition {v : SileroVad} (now : Nat) (speechProb : ℚ) (h : Grammar S ws)
    (hsorted : ws.Pairwise fun v v' => v.time ≤ v'.time) (hS : v.silenceEndMs = S) (hphase : Phase S ws v.state v.silenceTimer)
    (hx : x = ⟨now, decide (speechProb < v.threshold), (v.transition now speechProb).2⟩) :
    Grammar S (ws ++ [x]) ∧
      Phase S (ws ++ [x]) (v.transition now speechProb).1.state (v.transition now speechProb).1.silenceTimer := by
  have hb : x.below = decide (speechProb < v.threshold) := by rw [hx]
  have htime : x.time = now := by rw [hx]
  have hsignals : x.signals = (v.transition now speechProb).2 := by rw [hx]
  clear hx
  unfold transition at hsignals ⊢
  cases hstate : v.state with
  | idle =>
    rw [hstate] at hphase
    obtain ⟨hdue, hclosed⟩ := hphase
    simp only [hstate] at hsignals ⊢
    split at hsignals
    · rename_i hloud
      rw [if_pos hloud]
      exact phase_started h hdue hclosed hsignals (hb.trans (decide_eq_false (Rat.not_lt.2 hloud))) _
    · rename_i hquiet
      rw [if_neg hquiet, hstate]
      refine ⟨grammar_append_nil h hsignals fun s hs => .inl (hclosed s hs), by rw [due_append_nil hsignals, hdue], ?_⟩
      intro s hs
      rcases starts_append hs with hs | ⟨-, hmem⟩
      · exact (hclosed s hs).append x
      · rw [hsignals] at hmem
        exact absurd hmem List.not_mem_nil
  | speaking =>
    rw [hstate] at hphase
    obtain ⟨hdue, s, hopen, hloud⟩ := hphase
    simp only [hstate] at hsignals ⊢
    split at hsignals
    · rename_i hquiet
      rw [if_pos hquiet]
      have htrailing := phase_trailing h hdue hopen hloud hsignals (hb.trans (decide_eq_true hquiet))
      rwa [htime] at htrailing
    · rename_i hnot
      rw [if_neg hnot, hstate]
      exact phase_speaking h hdue hopen hsignals (hb.trans (decide_eq_false hnot)) _
  | trailing =>
    rw [hstate] at hphase
    obtain ⟨hdue, s, w, hopen, hsw, hloud, hall, htimer⟩ := hphase
    simp only [hstate] at hsignals ⊢
    split at hsignals
    · rename_i hagain
      rw [if_pos hagain]
      exact phase_speaking h hdue hopen hsignals (hb.trans (decide_eq_false (Rat.not_lt.2 hagain))) _
    · rename_i hquiet
      rw [if_neg hquiet]
      have hbelow : x.below = true := hb.trans (decide_eq_true (Rat.not_le.1 hquiet))
      obtain ⟨hshort, hlong⟩ := phase_silent h hsorted hdue hopen hsw hloud hall htimer hbelow
      rw [htime, ← hS] at hshort hlong
      split at hsignals
      · rename_i hover
        rw [if_pos hover]
        exact hS ▸ hlong hsignals hover
      · rename_i hunder
        rw [if_neg hunder, hstate]
        exact hS ▸ hshort hsignals (by omega)

/-! ## A run -/

/-- What every step keeps. -/
structure Inv (S : Int) (h : Hearing) : Prop where
  silenceEndMs : h.vad.silenceEndMs = S
  past : ∀ w ∈ h.heard, w.time ≤ h.now
  sorted : h.heard.Pairwise fun v w => v.time ≤ w.time
  grammar : Grammar S h.heard
  phase : Phase S h.heard h.vad.state h.vad.silenceTimer

theorem grammar_nil (S : Int) : Grammar S [] := by
  refine ⟨trivial, fun j hj => absurd hj.lt (Nat.not_lt_zero j), fun s j hs => absurd hs.lt (Nat.not_lt_zero s)⟩

theorem phase_nil (S : Int) (silenceTimer : Nat) : Phase S [] .idle silenceTimer :=
  ⟨rfl, fun s hs => absurd hs.lt (Nat.not_lt_zero s)⟩

/-- The recurrent state plays no part in what a window does to the rest. -/
theorem runInference_eq (now : Nat) (outputs : List (List ℚ)) (v : SileroVad) :
    ∃ state, v.runInference now outputs = { v with recurrentState := state }.transition now (speechProb outputs) := by
  unfold runInference
  split
  · exact ⟨_, rfl⟩
  · exact ⟨v.recurrentState, rfl⟩

/-- A window leaves the length of the silence. -/
theorem silenceEndMs_transition (now : Nat) (speechProb : ℚ) (v : SileroVad) :
    (v.transition now speechProb).1.silenceEndMs = v.silenceEndMs := by
  unfold transition
  split
  · split <;> rfl
  · split <;> rfl
  · split
    · rfl
    · split <;> rfl

/-- Every event keeps the invariant. -/
theorem inv_step {h : Hearing} (hinv : Inv S h) (e : Hearing.Event) : Inv S (h.step e) := by
  cases e with
  | setThreshold threshold => exact ⟨hinv.silenceEndMs, hinv.past, hinv.sorted, hinv.grammar, hinv.phase⟩
  | reset =>
    exact ⟨hinv.silenceEndMs, fun w hw => absurd hw List.not_mem_nil, List.Pairwise.nil, grammar_nil S, phase_nil S _⟩
  | window elapsed outputs =>
    obtain ⟨state, heq⟩ := runInference_eq (h.now + elapsed) outputs h.vad
    have hphase := phase_transition (v := { h.vad with recurrentState := state }) (h.now + elapsed) (speechProb outputs)
      hinv.grammar hinv.sorted hinv.silenceEndMs hinv.phase rfl
    rw [← heq] at hphase
    refine ⟨?_, ?_, ?_, hphase.1, hphase.2⟩
    · rw [Hearing.step, heq, silenceEndMs_transition]
      exact hinv.silenceEndMs
    · intro w hw
      rcases List.mem_append.1 hw with hw | hw
      · exact Nat.le_trans (hinv.past w hw) (Nat.le_add_right _ _)
      · rw [List.mem_singleton.1 hw]
        exact Nat.le_refl _
    · refine List.pairwise_append.2 ⟨hinv.sorted, List.pairwise_singleton _ _, ?_⟩
      intro v hv w hw
      rw [List.mem_singleton.1 hw]
      exact Nat.le_trans (hinv.past v hv) (Nat.le_add_right _ _)

/-- Whatever the probabilities, the thresholds set in between, the resets and the clock: the events since the last reset
alternate, beginning with speech; each end of speech comes at a window such that an earlier one after the matching start,
and all from it on, were below the threshold then in force, and at least `silenceEndMs` have passed since; and it comes at
the first such window. -/
theorem vad_grammar (threshold : ℚ) (silenceEndMs : Int) (now : Nat) (es : List Hearing.Event) :
    Grammar silenceEndMs (run Hearing.step { vad := .create threshold silenceEndMs, now := now } es).heard := by
  have hstart : Inv silenceEndMs { vad := .create threshold silenceEndMs, now := now } :=
    ⟨rfl, fun w hw => absurd hw List.not_mem_nil, List.Pairwise.nil, grammar_nil _, phase_nil _ _⟩
  exact (inv_run_of_step (Inv silenceEndMs) (fun _ e h => inv_step h e) es hstart).grammar

end SileroVad

end PairionClient
