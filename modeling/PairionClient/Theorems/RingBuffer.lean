import PairionClient.Audio.RingBuffer
import PairionClient.Lib.Ring
import PairionClient.Lib.Run

/-!
# A ring buffer between two threads

The invariant numbers the values by their index stores: the write index is the slot of the next value to store, the read
index that of the next to pop, and the two are less than a round apart. A stale copy of the other side's index errs on the
safe side: the room that the producer saw is still there, and so is the value that the consumer saw.
-/

namespace PairionClient

open Transition
open Ring (slot slot_eq_iff slot_eq_slot_iff Holds)

namespace RingBuffer

variable {α : Type*} {C : Capacity} {s : Shared α C}

/-! ## The indices -/

/-- A capacity is a power of two. -/
theorem Capacity.eq_two_pow (C : Capacity) : ∃ k, C.val = 2 ^ k := by
  obtain ⟨k, hk⟩ := (Nat.and_sub_one_eq_zero_iff_isPowerOfTwo (Nat.pos_iff_ne_zero.1 C.pos)).1 C.powerOfTwo
  exact ⟨k, hk⟩

/-- Masking is the remainder by the capacity. -/
theorem and_kMask (C : Capacity) (i : Nat) : i &&& kMask C = i % C.val := by
  obtain ⟨k, hk⟩ := Capacity.eq_two_pow C
  rw [kMask, hk, Nat.and_two_pow_sub_one_eq_mod]

/-- The capacity divides the range of a 64-bit index. -/
theorem dvd_two_pow (C : Capacity) : C.val ∣ 2 ^ 64 := by
  obtain ⟨k, hk⟩ := Capacity.eq_two_pow C
  have hlt : 2 ^ k < 2 ^ 64 := hk ▸ C.fits
  rw [hk]
  exact Nat.pow_dvd_pow 2 (Nat.le_of_lt ((Nat.pow_lt_pow_iff_right Nat.one_lt_two).1 hlt))

/-- The slot after a place is that of the next place. -/
theorem advance_slot (i : Nat) : advance (slot C.pos i) = slot C.pos (i + 1) := by
  have hi := Nat.mod_lt i C.pos
  have hfits := C.fits
  apply Fin.ext
  simp only [advance, Ring.slot_val, and_kMask]
  rw [Nat.mod_eq_of_lt (a := i % C.val + 1) (by omega), Nat.mod_add_mod]

/-- The distance of two indices that are less than a round apart. -/
theorem sub_and_kMask {n m : Nat} (hle : m ≤ n) (hround : n < m + C.val) :
    (2 ^ 64 + n % C.val - m % C.val) % 2 ^ 64 &&& kMask C = n - m := by
  have hm := Nat.mod_lt m C.pos
  have hfits := C.fits
  rw [and_kMask, Nat.mod_mod_of_dvd _ (dvd_two_pow C)]
  have hsum : Nat.ModEq C.val (2 ^ 64 + n % C.val - m % C.val + m) (n - m + m) := by
    calc Nat.ModEq C.val (2 ^ 64 + n % C.val - m % C.val + m) (2 ^ 64 + n % C.val - m % C.val + m % C.val) :=
          (Nat.mod_modEq m C.val).symm.add_left _
      _ = 2 ^ 64 + n % C.val := Nat.sub_add_cancel (by omega)
      Nat.ModEq C.val _ (0 + n % C.val) := ((Nat.modEq_zero_iff_dvd).2 (dvd_two_pow C)).add_right _
      Nat.ModEq C.val _ n := by rw [Nat.zero_add]; exact Nat.mod_modEq n C.val
      _ = n - m + m := (Nat.sub_add_cancel hle).symm
  rw [show _ % C.val = (n - m) % C.val from Nat.ModEq.add_right_cancel' m hsum, Nat.mod_eq_of_lt (by omega)]

/-! ## The invariant -/

/-- What a call of `push` knows, with `stored` values stored and `popped` popped. -/
def Producer.Knows (data : Fin C.val → α) (stored popped : Nat) : Producer α C → Prop
  | .idle => True
  | .loaded _ w => w = slot C.pos stored
  | .notFull _ w nextW => w = slot C.pos stored ∧ nextW = slot C.pos (stored + 1) ∧ stored + 1 < popped + C.val
  | .assigned item w nextW =>
    (w = slot C.pos stored ∧ nextW = slot C.pos (stored + 1) ∧ stored + 1 < popped + C.val) ∧ data w = item

/-- What a call of `pop` knows. -/
def Consumer.Knows (values : List α) (popped : Nat) : Consumer α C → Prop
  | .idle => True
  | .loaded r => r = slot C.pos popped
  | .notEmpty r => r = slot C.pos popped ∧ popped < values.length
  | .moved r item => r = slot C.pos popped ∧ values[popped]? = some item

/-- What the consumer has moved out and not popped yet. -/
def Consumer.inHand : Consumer α C → Nat
  | .moved _ _ => 1
  | _ => 0

/-- The buffer, the calls in progress, the values stored with their slots, those popped and those accepted. -/
structure Linked (b : RingBuffer α C) (p : Producer α C) (c : Consumer α C) (stored : List (α × Fin C.val))
    (popped accepted : List α) : Prop where
  slots : ∀ k x, stored[k]? = some x → x.2 = slot C.pos k
  writeIdx : b.writeIdx = slot C.pos stored.length
  readIdx : b.readIdx = slot C.pos popped.length
  order : popped <+: stored.map (·.1)
  round : stored.length < popped.length + C.val
  accepted : stored.map (·.1) = accepted
  holds : Holds C.pos b.data (popped.length + c.inHand) (stored.map (·.1))
  producer : p.Knows b.data stored.length popped.length
  consumer : c.Knows (stored.map (·.1)) popped.length

def Inv (s : Shared α C) : Prop := Linked s.buffer s.producer s.consumer s.stored s.popped s.accepted

/-- A new buffer keeps the invariant. -/
theorem inv_create (C : Capacity) (init : α) : Inv (Shared.create C init) where
  slots := by intro k x hx; simp [Shared.create] at hx
  writeIdx := Fin.ext (Nat.zero_mod C.val).symm
  readIdx := Fin.ext (Nat.zero_mod C.val).symm
  order := List.nil_prefix
  round := by simpa [Shared.create, Shared.popped] using C.pos
  accepted := rfl
  holds := Ring.holds_nil _ _
  producer := trivial
  consumer := trivial

variable {b : RingBuffer α C} {p : Producer α C} {c : Consumer α C} {stored : List (α × Fin C.val)}
  {popped accepted : List α} {item : α} {w nextW r : Fin C.val}

/-- No more is taken out than was put in. -/
theorem Linked.le (h : Linked b p c stored popped accepted) : popped.length ≤ stored.length := by
  have hle := h.order.length_le
  rwa [List.length_map] at hle

/-! ## The producer -/

/-- What the consumer knows stays true while the producer stores. -/
theorem Consumer.Knows.append {values : List α} {popped : Nat} (h : c.Knows values popped) (item : α) :
    c.Knows (values ++ [item]) popped := by
  cases c with
  | idle => trivial
  | loaded r => exact h
  | notEmpty r =>
    have hlt := h.2
    exact ⟨h.1, by rw [List.length_append]; omega⟩
  | moved r next =>
    obtain ⟨hr, hnext⟩ := h
    have hlt := (List.getElem?_eq_some_iff.1 hnext).1
    exact ⟨hr, by rw [List.getElem?_append_left hlt, hnext]⟩

/-- A push that begins has read its own index. -/
theorem Linked.push (h : Linked b .idle c stored popped accepted) (item : α) :
    Linked b (.loaded item b.writeIdx) c stored popped accepted :=
  { h with producer := h.writeIdx }

/-- A push that finds the buffer full ends without a trace. -/
theorem Linked.refused (h : Linked b (.loaded item w) c stored popped accepted) :
    Linked b .idle c stored popped accepted :=
  { h with producer := trivial }

/-- The next slot is the one to read exactly when the unread values fill all slots but one. -/
theorem Linked.advance_eq_iff (h : Linked b (.loaded item w) c stored popped accepted) :
    advance w = b.readIdx ↔ stored.length + 1 = popped.length + C.val := by
  have hw : w = slot C.pos stored.length := h.producer
  have hle := h.le
  have hround := h.round
  rw [hw, advance_slot, h.readIdx, slot_eq_slot_iff C.pos (by omega) (by omega)]

/-- A push that finds room may write its slot. -/
theorem Linked.notFull (h : Linked b (.loaded item w) c stored popped accepted) (hroom : advance w ≠ b.readIdx) :
    Linked b (.notFull item w (advance w)) c stored popped accepted := by
  have hne := mt h.advance_eq_iff.2 hroom
  have hround := h.round
  obtain rfl : w = slot C.pos stored.length := h.producer
  exact { h with producer := ⟨rfl, advance_slot _, by omega⟩ }

/-- The slot that is written is that of the next value. -/
theorem Linked.assigned (h : Linked b (.notFull item w nextW) c stored popped accepted) :
    Linked { b with data := Function.update b.data w item } (.assigned item w nextW) c stored popped accepted := by
  obtain ⟨rfl, hnext, hlt⟩ := h.producer
  have hround : (stored.map (·.1)).length < popped.length + c.inHand + C.val := by
    rw [List.length_map]
    omega
  have hdata := h.holds.write hround item
  rw [List.length_map] at hdata
  exact { h with holds := hdata, producer := ⟨⟨rfl, hnext, hlt⟩, Function.update_self ..⟩ }

/-- The store of the write index puts the item in. -/
theorem Linked.store (h : Linked b (.assigned item w nextW) c stored popped accepted) :
    Linked { b with writeIdx := nextW } .idle c (stored ++ [(item, w)]) popped (accepted ++ [item]) := by
  obtain ⟨⟨rfl, hnext, hlt⟩, hdata⟩ := h.producer
  have hvalues : (stored ++ [(item, slot C.pos stored.length)]).map (·.1) = stored.map (·.1) ++ [item] := List.map_append
  refine ⟨?slots, ?writeIdx, h.readIdx, ?order, ?round, ?accepted, ?holds, trivial, ?consumer⟩
  case slots =>
    intro k x hk
    rcases Nat.lt_or_ge k stored.length with hold | hge
    · rw [List.getElem?_append_left hold] at hk
      exact h.slots k x hk
    · have hlen := (List.getElem?_eq_some_iff.1 hk).1
      rw [List.length_append, List.length_singleton] at hlen
      obtain rfl : k = stored.length := by omega
      rw [List.getElem?_concat_length] at hk
      rw [← Option.some.inj hk]
  case writeIdx => rw [List.length_append, List.length_singleton, hnext]
  case order => rw [hvalues]; exact h.order.trans (List.prefix_append _ _)
  case round => rw [List.length_append, List.length_singleton]; exact hlt
  case accepted => rw [hvalues, h.accepted]
  case holds => rw [hvalues]; exact h.holds.append (by rw [List.length_map, hdata])
  case consumer => rw [hvalues]; exact h.consumer.append item

/-! ## The consumer -/

/-- What the producer knows stays true while the consumer pops. -/
theorem Producer.Knows.mono {data : Fin C.val → α} {stored popped : Nat} (h : p.Knows data stored popped) :
    p.Knows data stored (popped + 1) := by
  cases p with
  | idle => trivial
  | loaded item w => exact h
  | notFull item w nextW =>
    obtain ⟨hw, hnext, hlt⟩ := h
    exact ⟨hw, hnext, by omega⟩
  | assigned item w nextW =>
    obtain ⟨⟨hw, hnext, hlt⟩, hdata⟩ := h
    exact ⟨⟨hw, hnext, by omega⟩, hdata⟩

/-- The producer is at work in another slot than the one to read. -/
theorem Producer.Knows.update {data : Fin C.val → α} {stored popped : Nat} (h : p.Knows data stored popped)
    (hlt : popped < stored) (hround : stored < popped + C.val) (y : α) :
    p.Knows (Function.update data (slot C.pos popped) y) stored popped := by
  cases p with
  | idle => trivial
  | loaded item w => exact h
  | notFull item w nextW => exact h
  | assigned item w nextW =>
    obtain ⟨⟨rfl, hnext, hroom⟩, hdata⟩ := h
    have hne : slot C.pos stored ≠ slot C.pos popped := by
      intro heq
      have hsame := (slot_eq_iff C.pos (Nat.le_of_lt hlt) hround).1 heq.symm
      omega
    exact ⟨⟨rfl, hnext, hroom⟩, by rw [Function.update_of_ne hne, hdata]⟩

/-- A pop that begins has read its own index. -/
theorem Linked.pop (h : Linked b p .idle stored popped accepted) :
    Linked b p (.loaded b.readIdx) stored popped accepted :=
  { h with consumer := h.readIdx }

/-- A pop that finds the buffer empty ends without a trace. -/
theorem Linked.nothing (h : Linked b p (.loaded r) stored popped accepted) :
    Linked b p .idle stored popped accepted :=
  { h with consumer := trivial }

/-- The slot to read is the one to write exactly when all values stored are popped. -/
theorem Linked.eq_writeIdx_iff (h : Linked b p (.loaded r) stored popped accepted) :
    r = b.writeIdx ↔ popped.length = stored.length := by
  have hr : r = slot C.pos popped.length := h.consumer
  rw [hr, h.writeIdx, slot_eq_iff C.pos h.le h.round]

/-- A pop that finds an item may take it. -/
theorem Linked.notEmpty (h : Linked b p (.loaded r) stored popped accepted) (hr : r ≠ b.writeIdx) :
    Linked b p (.notEmpty r) stored popped accepted := by
  have hne := mt h.eq_writeIdx_iff.2 hr
  have hle := h.le
  exact { h with consumer := ⟨h.consumer, by rw [List.length_map]; omega⟩ }

/-- The value that is moved out is the next one. -/
theorem Linked.moved (h : Linked b p (.notEmpty r) stored popped accepted) (y : α) :
    Linked { b with data := Function.update b.data r y } p (.moved r (b.data r)) stored popped accepted := by
  obtain ⟨rfl, hlt⟩ := h.consumer
  have hvalue := List.getElem?_eq_getElem hlt
  have hfirst : b.data (slot C.pos popped.length) = (stored.map (·.1))[popped.length] := h.holds.head hvalue
  rw [List.length_map] at hlt
  have hround : (stored.map (·.1)).length ≤ popped.length + C.val := by
    rw [List.length_map]
    exact Nat.le_of_lt h.round
  exact
    { h with
      holds := h.holds.giveUp hround y
      producer := h.producer.update hlt h.round y
      consumer := ⟨rfl, by rw [hvalue, hfirst]⟩ }

/-- The store of the read index takes the item out. -/
theorem Linked.take (h : Linked b p (.moved r item) stored popped accepted) :
    Linked { b with readIdx := advance r } p .idle stored (popped ++ [item]) accepted := by
  obtain ⟨rfl, hitem⟩ := h.consumer
  have hlength : (popped ++ [item]).length = popped.length + 1 := List.length_append
  have hround := h.round
  refine ⟨h.slots, h.writeIdx, ?readIdx, ?order, ?round, h.accepted, ?holds, ?producer, trivial⟩
  case readIdx => rw [hlength]; exact advance_slot _
  case order =>
    obtain ⟨rest, hrest⟩ := h.order
    rw [← hrest, List.getElem?_append_right (Nat.le_refl _), Nat.sub_self] at hitem
    obtain ⟨tail, rfl⟩ := List.head?_eq_some_iff.1 (List.head?_eq_getElem? ▸ hitem)
    exact ⟨tail, by rw [← hrest, List.append_assoc, List.singleton_append]⟩
  case round => rw [hlength]; omega
  case holds => rw [hlength]; exact h.holds
  case producer => rw [hlength]; exact h.producer.mono

/-! ## A step -/

/-- Every step of a push keeps the invariant. -/
theorem inv_pushStep (s : Shared α C) (h : Inv s) : Inv s.pushStep := by
  obtain ⟨b, p, c, stored, pushes, pops⟩ := s
  cases p with
  | idle => exact h
  | loaded item w =>
    simp only [Shared.pushStep]
    split
    · simpa [Inv, Shared.accepted, Shared.popped] using Linked.refused h
    · exact Linked.notFull h ‹_›
  | notFull item w nextW => exact Linked.assigned h
  | assigned item w nextW => simpa [Inv, Shared.pushStep, Shared.accepted, Shared.popped] using Linked.store h

/-- Every step of a pop keeps the invariant. -/
theorem inv_popStep (movedFrom : α → α) (s : Shared α C) (h : Inv s) : Inv (s.popStep movedFrom) := by
  obtain ⟨b, p, c, stored, pushes, pops⟩ := s
  cases c with
  | idle => exact h
  | loaded r =>
    simp only [Shared.popStep]
    split
    · simpa [Inv, Shared.accepted, Shared.popped] using Linked.nothing h
    · exact Linked.notEmpty h ‹_›
  | notEmpty r => exact Linked.moved h _
  | moved r item => simpa [Inv, Shared.popStep, Shared.accepted, Shared.popped] using Linked.take h

/-- Every step of either side keeps the invariant. -/
theorem inv_step (movedFrom : α → α) (s : Shared α C) (e : Event α) (h : Inv s) : Inv (s.step movedFrom e) := by
  cases e with
  | push item =>
    obtain ⟨b, p, c, stored, pushes, pops⟩ := s
    cases p with
    | idle => exact Linked.push h item
    | loaded item w => exact h
    | notFull item w nextW => exact h
    | assigned item w nextW => exact h
  | pushStep => exact inv_pushStep s h
  | pop =>
    obtain ⟨b, p, c, stored, pushes, pops⟩ := s
    cases c with
    | idle => exact Linked.pop h
    | loaded r => exact h
    | notEmpty r => exact h
    | moved r item => exact h
  | popStep => exact inv_popStep movedFrom s h

/-! ## What the calls return, and where they write -/

/-- A call of `push` that returns false found all slots but one unread, a call of `pop` that returns false found none, and
the slot that `push` writes is not that of an unread value. -/
structure Sound (movedFrom : α → α) (s : Shared α C) (e : Event α) : Prop where
  full : ∀ item, (s.step movedFrom e).pushes = s.pushes ++ [(item, false)] → s.unread.length = C.val - 1
  empty : (s.step movedFrom e).pops = s.pops ++ [none] → s.unread = []
  free : ∀ item w nextW, s.producer = .notFull item w nextW → ∀ x ∈ s.unread, x.2 ≠ w

/-- Unread is what was stored and not yet popped. -/
theorem length_unread (s : Shared α C) : s.unread.length = s.stored.length - s.popped.length := List.length_drop

/-- A pop does not count as a push. -/
theorem pushes_popStep (movedFrom : α → α) (s : Shared α C) : (s.popStep movedFrom).pushes = s.pushes := by
  unfold Shared.popStep
  split
  · rfl
  · split <;> rfl
  · rfl
  · rfl

/-- A push does not count as a pop. -/
theorem pops_pushStep (s : Shared α C) : s.pushStep.pops = s.pops := by
  simp only [Shared.pushStep]
  split
  · rfl
  · split <;> rfl
  · rfl
  · rfl

/-- A call of `push` returns false at its load of the read index. -/
theorem loaded_of_refused {movedFrom : α → α} {e : Event α} (he : (s.step movedFrom e).pushes = s.pushes ++ [(item, false)]) :
    ∃ w, s.producer = .loaded item w ∧ advance w = s.buffer.readIdx := by
  cases e with
  | push first =>
    simp only [Shared.step] at he
    split at he <;> simp at he
  | pushStep =>
    simp only [Shared.step, Shared.pushStep] at he
    split at he
    · simp at he
    · split at he
      · obtain rfl : item = _ := by simpa using he.symm
        exact ⟨_, ‹_›, ‹_›⟩
      · simp at he
    · simp at he
    · simp at he
  | pop =>
    simp only [Shared.step] at he
    split at he <;> simp at he
  | popStep =>
    rw [Shared.step, pushes_popStep] at he
    simp at he

/-- A call of `pop` returns false at its load of the write index. -/
theorem loaded_of_nothing {movedFrom : α → α} {e : Event α} (he : (s.step movedFrom e).pops = s.pops ++ [none]) :
    ∃ r, s.consumer = .loaded r ∧ r = s.buffer.writeIdx := by
  cases e with
  | push first =>
    simp only [Shared.step] at he
    split at he <;> simp at he
  | pushStep =>
    rw [Shared.step, pops_pushStep] at he
    simp at he
  | pop =>
    simp only [Shared.step] at he
    split at he <;> simp at he
  | popStep =>
    simp only [Shared.step, Shared.popStep] at he
    split at he
    · simp at he
    · split at he
      · exact ⟨_, ‹_›, ‹_›⟩
      · simp at he
    · simp at he
    · simp at he

/-- A call that returns false is right to, and a push writes no unread slot. -/
theorem Inv.sound (h : Inv s) (movedFrom : α → α) (e : Event α) : Sound movedFrom s e := by
  have hle := Linked.le h
  constructor
  case full =>
    intro item he
    obtain ⟨w, hp, hw⟩ := loaded_of_refused he
    rw [Inv, hp] at h
    have hfull := (Linked.advance_eq_iff h).1 hw
    rw [length_unread]
    omega
  case empty =>
    intro he
    obtain ⟨r, hc, hr⟩ := loaded_of_nothing he
    rw [Inv, hc] at h
    have hempty := (Linked.eq_writeIdx_iff h).1 hr
    exact List.drop_eq_nil_of_le (Nat.le_of_eq hempty.symm)
  case free =>
    intro item w nextW hp x hx heq
    rw [Inv, hp] at h
    obtain ⟨k, hk⟩ := List.mem_iff_getElem?.1 hx
    rw [Shared.unread, List.getElem?_drop] at hk
    have hlt := (List.getElem?_eq_some_iff.1 hk).1
    have hround := h.round
    rw [h.slots _ x hk, h.producer.1] at heq
    have hsame := (slot_eq_iff C.pos (Nat.le_of_lt hlt) (by omega)).1 heq
    omega

/-! ## A run -/

/-- What the two sides have done, in a state of a run. -/
structure Refines (s : Shared α C) : Prop where
  fifo : s.popped <+: s.values
  accepted : s.values = s.accepted
  bound : s.unread.length ≤ C.val - 1
  size : s.buffer.size = s.unread.length
  isEmpty : s.buffer.isEmpty = true ↔ s.unread = []
  isFull : s.buffer.isFull = true ↔ s.unread.length = C.val - 1

/-- The buffer holds what the queue holds. -/
theorem Inv.refines (h : Inv s) : Refines s := by
  have hle := Linked.le h
  have hround := h.round
  have hpos := C.pos
  refine ⟨h.order, h.accepted, ?bound, ?size, ?isEmpty, ?isFull⟩
  case bound =>
    rw [length_unread]
    omega
  case size =>
    rw [length_unread, size, h.writeIdx, h.readIdx]
    exact sub_and_kMask hle hround
  case isEmpty =>
    rw [isEmpty, decide_eq_true_iff, h.writeIdx, h.readIdx, slot_eq_iff C.pos hle hround, Shared.unread,
      List.drop_eq_nil_iff]
    omega
  case isFull =>
    rw [isFull, decide_eq_true_iff, h.writeIdx, h.readIdx, advance_slot, slot_eq_slot_iff C.pos (by omega) (by omega),
      length_unread]
    omega

/-- Whatever the capacity and the interleaving: the values popped are the first of the values stored, which are those
whose push returns true; less than a round is unread, what `size`, `isEmpty` and `isFull` say at any moment is so of the
unread values, and every step is sound. -/
theorem ring_refines_fifo (C : Capacity) (init : α) (movedFrom : α → α) (es : List (Event α)) :
    Refines (run (Shared.step movedFrom) (.create C init) es) ∧
      EveryStep (Shared.step movedFrom) (Sound movedFrom) (.create C init) es := by
  have hinv := inv_run_of_step Inv (inv_step movedFrom) es (inv_create C init)
  exact ⟨hinv.refines, everyStep_of_inv Inv (inv_step movedFrom) (fun s e h => h.sound movedFrom e) es (inv_create C init)⟩

/-- Two slots keep one value. -/
example :
    let two : Capacity := ⟨2, by decide, by decide, by decide⟩
    let store (item : Nat) : List (Event Nat) := [.push item, .pushStep, .pushStep, .pushStep]
    let es := store 5 ++ store 6 ++ [.pop, .popStep, .popStep, .popStep] ++ store 7
    (run (Shared.step id) (.create two 0) es).pushes = [(5, true), (6, false), (7, true)] := by
  decide

end RingBuffer

end PairionClient
