import PairionClient.Lemmas.Capture
import PairionClient.Lib.Run

/-!
# Which session a frame is from

A capture session runs from a successful start to the next stop or error of the device. The bytes of the accumulator
remember here where they were read, so that it can be said of a frame whether it is one piece of one session. It is, unless
the accumulator was not cleared in time: an error of the device leaves it as it is, and the restart that follows does, too.
-/

namespace PairionClient

open Transition

namespace PairionAudioCapture

/-- Where a byte was read: the number of the session and the place in it, or outside of any session. -/
abbrev Origin : Type := Option (Nat × Nat)

/-- A capture whose bytes remember where they were read. -/
structure Tracked where
  capture : PairionAudioCapture
  /-- The sessions so far; the one that runs is the last of them. -/
  sessions : Nat := 0
  /-- The bytes read in that session. -/
  position : Nat := 0
  /-- The bytes of the accumulator. -/
  held : List (UInt8 × Origin) := []

namespace Tracked

/-- Bytes read now, with where. -/
def arrivals (s : Tracked) (data : Bytes) : List (UInt8 × Origin) :=
  (data.zipIdx s.position).map fun b => (b.1, if s.capture.running then some (s.sessions, b.2) else none)

/-- The frames of a step, and what stays in the accumulator. -/
def cut (s : Tracked) (e : Event) : List (List (UInt8 × Origin)) × List (UInt8 × Origin) :=
  Blocks.cut kPcmFrameBytes (s.held ++ s.arrivals (reads s.capture e))

def step (s : Tracked) (e : Event) : Tracked where
  capture := (s.capture.step e).1
  sessions := if starts s.capture e then s.sessions + 1 else s.sessions
  position := if starts s.capture e then 0 else s.position + (reads s.capture e).length
  held := if clears s.capture e then [] else (s.cut e).2

/-- Bytes that were read one after the other in one session, from a place on. -/
def Consecutive (session first : Nat) (bytes : List (UInt8 × Origin)) : Prop :=
  bytes.map Prod.snd = (List.range' first bytes.length).map fun i => some (session, i)

/-- Every frame of the step is emitted while the capture runs, and is one piece of one session. -/
def Isolated (s : Tracked) (e : Event) : Prop :=
  ∀ f ∈ (s.cut e).1, s.capture.running = true ∧ ∃ session first, Consecutive session first f

/-- The accumulator holds a byte that was not read in the session that runs. -/
def Stale (s : Tracked) : Prop := ∃ b ∈ s.held, ∀ i, b.2 ≠ some (s.sessions, i)

/-- Data arrives that completes a frame, and the capture does not run or holds stale bytes. -/
def Mixes (s : Tracked) (e : Event) : Prop :=
  kPcmFrameBytes ≤ s.capture.accumulator.length + (reads s.capture e).length ∧ (s.capture.running = false ∨ s.Stale)

/-! ## Consecutive bytes -/

theorem consecutive_append (session first : Nat) (xs ys : List (UInt8 × Origin)) :
    Consecutive session first (xs ++ ys) ↔
      Consecutive session first xs ∧ Consecutive session (first + xs.length) ys := by
  unfold Consecutive
  have hsplit : List.range' first (xs ++ ys).length =
      List.range' first xs.length ++ List.range' (first + xs.length) ys.length := by
    rw [List.length_append, List.range'_append_1]
  rw [hsplit, List.map_append, List.map_append]
  constructor
  · intro h
    exact List.append_inj h (by simp)
  · rintro ⟨hx, hy⟩
    rw [hx, hy]

/-- A piece of consecutive bytes is consecutive. -/
theorem consecutive_of_infix {session first : Nat} {xs f : List (UInt8 × Origin)} (h : Consecutive session first xs)
    (hf : f <:+: xs) : ∃ first', Consecutive session first' f := by
  obtain ⟨before, after, rfl⟩ := hf
  rw [consecutive_append, consecutive_append] at h
  exact ⟨_, h.1.2⟩

/-- Each of consecutive bytes was read in the session. -/
theorem Consecutive.session {session first : Nat} {xs : List (UInt8 × Origin)} (h : Consecutive session first xs)
    {b : UInt8 × Origin} (hb : b ∈ xs) : ∃ i, b.2 = some (session, i) := by
  have hmem : b.2 ∈ xs.map Prod.snd := List.mem_map_of_mem hb
  rw [h] at hmem
  obtain ⟨i, -, hi⟩ := List.mem_map.1 hmem
  exact ⟨i, hi.symm⟩

/-- Tagging leaves the bytes. -/
theorem map_fst_arrivals (s : Tracked) (data : Bytes) : (s.arrivals data).map Prod.fst = data := by
  unfold arrivals
  rw [List.map_map]
  exact List.zipIdx_map_fst _ _

/-- While the capture runs, what arrives is consecutive from where the session is. -/
theorem consecutive_arrivals {s : Tracked} (hrun : s.capture.running = true) (data : Bytes) :
    Consecutive s.sessions s.position (s.arrivals data) := by
  unfold Consecutive arrivals
  simp only [hrun, if_true, List.map_map, List.length_map, List.length_zipIdx]
  rw [← List.zipIdx_map_snd s.position data, List.map_map]
  rfl

/-! ## The invariant -/

/-- The bytes held are the accumulator's, less than a frame; none is from a session to come; and while the capture runs,
those of the session that runs are the last ones read in it. -/
structure Inv (s : Tracked) : Prop where
  bytes : s.held.map Prod.fst = s.capture.accumulator
  short : s.held.length < kPcmFrameBytes
  past : ∀ b ∈ s.held, ∀ session i, b.2 = some (session, i) → session ≤ s.sessions
  current : s.capture.running = true →
    ∃ stale fresh first, s.held = stale ++ fresh ∧ (∀ b ∈ stale, ∀ i, b.2 ≠ some (s.sessions, i)) ∧
      Consecutive s.sessions first fresh ∧ first + fresh.length = s.position

/-- A new capture holds no bytes. -/
theorem inv_create (device : Option Nat) : Inv { capture := .create device } :=
  ⟨rfl, Nat.succ_pos _, fun _ hb => absurd hb List.not_mem_nil, fun h => absurd h Bool.false_ne_true⟩

/-- Less than a frame is held. -/
theorem short_accumulator {s : Tracked} (h : Inv s) : s.capture.accumulator.length < kPcmFrameBytes := by
  rw [← h.bytes, List.length_map]
  exact h.short

/-- Forgetting where the bytes were read, the frames and the rest are those of the capture. -/
theorem cut_bytes {s : Tracked} (h : Inv s) (e : Event) :
    Blocks.cut kPcmFrameBytes (s.capture.accumulator ++ reads s.capture e) =
      ((s.cut e).1.map (List.map Prod.fst), (s.cut e).2.map Prod.fst) := by
  rw [cut, ← Blocks.cut_map kPcmFrameBytes_pos, List.map_append, h.bytes, map_fst_arrivals]

/-- A byte held or read now is not from a session to come. -/
theorem past_arrivals {s : Tracked} (h : Inv s) (data : Bytes) :
    ∀ b ∈ s.held ++ s.arrivals data, ∀ session i, b.2 = some (session, i) → session ≤ s.sessions := by
  intro b hb session i hi
  rcases List.mem_append.1 hb with hb | hb
  · exact h.past b hb session i hi
  · obtain ⟨c, -, rfl⟩ := List.mem_map.1 hb
    cases hrun : s.capture.running with
    | false => simp [hrun] at hi
    | true =>
      simp only [hrun, if_true, Option.some.injEq, Prod.mk.injEq] at hi
      exact Nat.le_of_eq hi.1.symm

/-- What stays of stale bytes and of those of the session. -/
theorem current_of_suffix {session position : Nat} {stale fresh before rest : List (UInt8 × Origin)} {first : Nat}
    (hsplit : before ++ rest = stale ++ fresh) (hstale : ∀ b ∈ stale, ∀ i, b.2 ≠ some (session, i))
    (hfresh : Consecutive session first fresh) (hend : first + fresh.length = position) :
    ∃ stale' fresh' first', rest = stale' ++ fresh' ∧ (∀ b ∈ stale', ∀ i, b.2 ≠ some (session, i)) ∧
      Consecutive session first' fresh' ∧ first' + fresh'.length = position := by
  rcases List.append_eq_append_iff.1 hsplit with ⟨as, hs, hr⟩ | ⟨bs, -, hf⟩
  · refine ⟨as, fresh, first, hr, fun b hb => hstale b ?_, hfresh, hend⟩
    rw [hs]
    exact List.mem_append_right before hb
  · rw [hf, consecutive_append] at hfresh
    refine ⟨[], rest, _, rfl, fun b hb => absurd hb List.not_mem_nil, hfresh.2, ?_⟩
    rw [hf, List.length_append] at hend
    omega

/-- Every event keeps the invariant. -/
theorem inv_step {s : Tracked} (h : Inv s) (e : Event) : Inv (s.step e) := by
  obtain ⟨hacc, -⟩ := step_cut (short_accumulator h) e
  rw [cut_bytes h e] at hacc
  have hsplit : (s.cut e).1.flatten ++ (s.cut e).2 = s.held ++ s.arrivals (reads s.capture e) :=
    Blocks.cut_append_rest kPcmFrameBytes_pos _
  have hpast : ∀ b ∈ (s.step e).held, ∀ session i, b.2 = some (session, i) → session ≤ s.sessions := by
    intro b hb
    refine past_arrivals h (reads s.capture e) b ?_
    have hheld : (s.step e).held = if clears s.capture e then [] else (s.cut e).2 := rfl
    rw [hheld] at hb
    rw [← hsplit]
    split at hb
    · exact absurd hb List.not_mem_nil
    · exact List.mem_append_right _ hb
  refine ⟨?_, ?_, ?_, ?_⟩
  · unfold step
    dsimp only
    rw [hacc]
    split <;> rfl
  · unfold step
    dsimp only
    split
    · exact kPcmFrameBytes_pos
    · exact Blocks.length_cut_rest kPcmFrameBytes_pos _
  · intro b hb session i hi
    have hle := hpast b hb session i hi
    unfold step
    dsimp only
    split <;> omega
  · intro hrun
    cases hstarts : starts s.capture e with
    | true =>
      -- a session that starts finds stale bytes only
      refine ⟨(s.step e).held, [], 0, (List.append_nil _).symm, ?_, rfl, by simp [step, hstarts]⟩
      intro b hb i hi
      have hle := hpast b hb _ i hi
      simp only [step, hstarts, if_true] at hle
      omega
    | false =>
      have hran := running_of_not_starts hstarts hrun
      obtain ⟨stale, fresh, first, hheld, hstale, hfresh, hend⟩ := h.current hran
      have harrivals := consecutive_arrivals hran (reads s.capture e)
      rw [← hend] at harrivals
      have hall := (consecutive_append _ _ _ _).2 ⟨hfresh, harrivals⟩
      rw [hheld, List.append_assoc] at hsplit
      have hlength : (s.arrivals (reads s.capture e)).length = (reads s.capture e).length := by
        rw [← map_fst_arrivals s (reads s.capture e), List.length_map, map_fst_arrivals]
      have hposition : first + (fresh ++ s.arrivals (reads s.capture e)).length =
          s.position + (reads s.capture e).length := by
        rw [List.length_append, hlength, ← hend, Nat.add_assoc]
      simp only [step, hstarts, Bool.false_eq_true, if_false]
      split
      · exact ⟨[], [], _, rfl, fun b hb => absurd hb List.not_mem_nil, rfl, Nat.add_zero _⟩
      · exact current_of_suffix hsplit hstale hall hposition

/-! ## Frames and sessions -/

/-- The frames that a step emits are those it cuts off. -/
theorem emitted_step {s : Tracked} (h : Inv s) (e : Event) :
    emitted (s.capture.step e).2 = (s.cut e).1.map (List.map Prod.fst) := by
  rw [(step_cut (short_accumulator h) e).2, cut_bytes h e]

/-- What is held and what arrives are as long as the accumulator and the data. -/
theorem length_held_arrivals {s : Tracked} (h : Inv s) (data : Bytes) :
    (s.held ++ s.arrivals data).length = s.capture.accumulator.length + data.length := by
  rw [← h.bytes, List.length_append, List.length_map]
  congr 1
  conv_rhs => rw [← map_fst_arrivals s data, List.length_map]

/-- A step that does not mix sessions emits frames of one session each. -/
theorem isolated_of_not_mixes {s : Tracked} (h : Inv s) {e : Event} (he : ¬Mixes s e) : Isolated s e := by
  intro f hf
  have hpart := Blocks.infix_of_mem_cut kPcmFrameBytes_pos hf
  have hcompletes : kPcmFrameBytes ≤ s.capture.accumulator.length + (reads s.capture e).length := by
    rw [← length_held_arrivals h, ← Blocks.length_of_mem_cut hf]
    exact hpart.length_le
  have hrun : s.capture.running = true := by
    by_contra hno
    exact he ⟨hcompletes, .inl (Bool.eq_false_iff.2 hno)⟩
  obtain ⟨stale, fresh, first, hheld, hstale, hfresh, hend⟩ := h.current hrun
  have hnil : stale = [] := by
    cases stale with
    | nil => rfl
    | cons b stale =>
      refine absurd ⟨hcompletes, .inr ⟨b, ?_, hstale b List.mem_cons_self⟩⟩ he
      rw [hheld]
      exact List.mem_append_left _ List.mem_cons_self
  rw [hheld, hnil, List.nil_append] at hpart
  have harrivals := consecutive_arrivals hrun (reads s.capture e)
  rw [← hend] at harrivals
  exact ⟨hrun, s.sessions, consecutive_of_infix ((consecutive_append _ _ _ _).2 ⟨hfresh, harrivals⟩) hpart⟩

/-- The first frame that is completed holds all that was held, and the first byte that arrives. -/
theorem not_isolated_of_mixes {s : Tracked} (h : Inv s) {e : Event} (he : Mixes s e) : ¬Isolated s e := by
  obtain ⟨hcompletes, hbad⟩ := he
  intro hisolated
  rw [← length_held_arrivals h] at hcompletes
  have hfirst := Blocks.getElem?_cut kPcmFrameBytes_pos (s.held ++ s.arrivals (reads s.capture e)) (k := 0)
    (by rwa [Nat.zero_add, Nat.mul_one])
  rw [Nat.mul_zero, List.drop_zero] at hfirst
  obtain ⟨hrun, session, first, hsession⟩ := hisolated _ (List.mem_of_getElem? hfirst)
  rcases hbad with hstopped | ⟨b, hb, hstale⟩
  · exact absurd (hrun.symm.trans hstopped) (by decide)
  · cases harr : s.arrivals (reads s.capture e) with
    | nil =>
      rw [harr, List.append_nil] at hcompletes
      exact absurd h.short (Nat.not_lt.2 hcompletes)
    | cons c rest =>
      have htake : (s.held ++ c :: rest).take kPcmFrameBytes =
          s.held ++ c :: rest.take (kPcmFrameBytes - s.held.length - 1) := by
        obtain ⟨m, hm⟩ : ∃ m, kPcmFrameBytes - s.held.length = m + 1 :=
          ⟨kPcmFrameBytes - s.held.length - 1, by have := h.short; omega⟩
        rw [List.take_append, List.take_of_length_le (Nat.le_of_lt h.short), hm, List.take_succ_cons, Nat.add_sub_cancel]
      rw [harr, htake] at hsession
      obtain ⟨i, hi⟩ := hsession.session (List.mem_append_left _ hb)
      obtain ⟨j, hj⟩ := hsession.session (List.mem_append_right _ List.mem_cons_self)
      obtain ⟨l, hl⟩ := (consecutive_arrivals hrun (reads s.capture e)).session (harr ▸ List.mem_cons_self)
      rw [hj] at hl
      obtain ⟨rfl, -⟩ := Prod.mk.inj (Option.some.inj hl)
      exact hstale i hi

end Tracked

/-- In every run of a capture, with a source of its own or on a device that is given: the frames emitted are those that
the tracked run cuts off; and each of them is one piece of one session, emitted while the capture runs, exactly when no
data arrives that completes a frame while the capture does not run or holds bytes from before the session. -/
theorem capture_isolated_iff (device : Option Nat) (es : List Event) :
    EveryStep Tracked.step
        (fun s e => emitted (s.capture.step e).2 = (s.cut e).1.map (List.map Prod.fst)) { capture := .create device } es ∧
      (EveryStep Tracked.step Tracked.Isolated { capture := .create device } es ↔
        EveryStep Tracked.step (fun s e => ¬s.Mixes e) { capture := .create device } es) := by
  constructor
  · exact everyStep_of_inv Tracked.Inv (fun s e h => Tracked.inv_step h e) (fun s e h => Tracked.emitted_step h e) es
      (Tracked.inv_create device)
  · refine everyStep_congr_of_inv Tracked.Inv (fun s e h _ => Tracked.inv_step h e) ?_ (Tracked.inv_create device)
    exact fun s e h => ⟨fun hi hm => Tracked.not_isolated_of_mixes h hm hi, Tracked.isolated_of_not_mixes h⟩

/-- The device fails after one sample, and the health check opens another, which brings 319: the frame that is completed
begins with the sample of the old session. -/
theorem capture_isolated_iff_false :
    ¬∀ (device : Option Nat) (es : List Event), EveryStep Tracked.step Tracked.Isolated { capture := .create device } es := by
  intro h
  have hsteps := h none [.start (.opened 0), .readyRead 0 [1, 2], .stateChanged true 3, .restart (.opened 1),
    .readyRead 1 (List.replicate 638 0)]
  obtain ⟨-, -, -, -, hisolated, -⟩ := hsteps
  let s := run Tracked.step { capture := create none }
    [.start (.opened 0), .readyRead 0 [1, 2], .stateChanged true 3, .restart (.opened 1)]
  have hinv : s.Inv := inv_run_of_step Tracked.Inv (fun _ e h => Tracked.inv_step h e) _ (Tracked.inv_create none)
  have hsessions : s.sessions = 2 := by decide
  have haccumulator : s.capture.accumulator = [1, 2] := by decide
  have hopen : 1 ∈ s.capture.connected ∧ s.capture.ioDevice ≠ none := by decide
  have hreads : reads s.capture (.readyRead 1 (List.replicate 638 0)) = List.replicate 638 0 := by
    rw [reads, if_pos hopen]
  refine Tracked.not_isolated_of_mixes hinv ⟨?_, .inr ⟨(1, some (1, 0)), by decide, ?_⟩⟩ hisolated
  · rw [haccumulator, hreads, List.length_replicate]
    decide
  · intro i hi
    rw [hsessions] at hi
    simp at hi

end PairionAudioCapture

end PairionClient
