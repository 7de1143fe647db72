import Mathlib.Algebra.Ring.Nat
import Mathlib.Data.List.Basic
import Mathlib.Logic.Function.Basic

/-!
# The ring buffer

`audio/ring_buffer.h`: one producer and one consumer share an array and two indices, without a lock. Each load of an index,
each access to a slot and each store of an index is one step; the steps of the two sides interleave. What a slot holds after
its value was moved out is a parameter, as is the value that the array is filled with. `stored` records the values whose
push has stored the write index, with the slots they are in; `pushes` and `pops` are the calls that have returned.
-/

namespace PairionClient

/-- A capacity that passes the static assertion, and fits `std::size_t`. -/
structure Capacity where
  val : Nat
  pos : 0 < val
  powerOfTwo : val &&& (val - 1) = 0
  fits : val < 2 ^ 64

structure RingBuffer (α : Type*) (C : Capacity) where
  data : Fin C.val → α
  writeIdx : Fin C.val
  readIdx : Fin C.val

namespace RingBuffer

variable {α : Type*} {C : Capacity}

/-- `m_data{}`, and both indices zero. -/
def create (C : Capacity) (init : α) : RingBuffer α C := ⟨fun _ => init, ⟨0, C.pos⟩, ⟨0, C.pos⟩⟩

def kMask (C : Capacity) : Nat := C.val - 1

/-- A masked index lies within the buffer. -/
theorem and_kMask_lt (C : Capacity) (i : Nat) : i &&& kMask C < C.val :=
  Nat.lt_of_le_of_lt Nat.and_le_right (Nat.sub_lt C.pos Nat.one_pos)

/-- `(i + 1) & kMask`. -/
def advance (i : Fin C.val) : Fin C.val := ⟨(i.val + 1) % 2 ^ 64 &&& kMask C, and_kMask_lt C _⟩

def isEmpty (b : RingBuffer α C) : Bool := b.readIdx = b.writeIdx

def isFull (b : RingBuffer α C) : Bool := advance b.writeIdx = b.readIdx

def size (b : RingBuffer α C) : Nat := (2 ^ 64 + b.writeIdx.val - b.readIdx.val) % 2 ^ 64 &&& kMask C

/-! ## The two sides -/

/-- Where a call of `push` stands. -/
inductive Producer (α : Type*) (C : Capacity) where
  | idle
  | loaded (item : α) (w : Fin C.val)
  | notFull (item : α) (w nextW : Fin C.val)
  | assigned (item : α) (w nextW : Fin C.val)

/-- Where a call of `pop` stands. -/
inductive Consumer (α : Type*) (C : Capacity) where
  | idle
  | loaded (r : Fin C.val)
  | notEmpty (r : Fin C.val)
  | moved (r : Fin C.val) (item : α)

/-- The buffer with a call of each side, and what has happened. -/
structure Shared (α : Type*) (C : Capacity) where
  buffer : RingBuffer α C
  producer : Producer α C := .idle
  consumer : Consumer α C := .idle
  stored : List (α × Fin C.val) := []
  /-- The items of the calls of `push` that have returned, with what they returned. -/
  pushes : List (α × Bool) := []
  /-- The items that calls of `pop` have returned with true, and nothing for those that returned false. -/
  pops : List (Option α) := []

/-- A call begins with its first load; the other two events are the next step of the call of a side. -/
inductive Event (α : Type*) where
  | push (item : α)
  | pushStep
  | pop
  | popStep

namespace Shared

def create (C : Capacity) (init : α) : Shared α C := { buffer := .create C init }

/-- The next step of `push`. -/
def pushStep (s : Shared α C) : Shared α C :=
  match s.producer with
  | .idle => s
  | .loaded item w =>
    let nextW := advance w
    if nextW = s.buffer.readIdx then { s with producer := .idle, pushes := s.pushes ++ [(item, false)] }
    else { s with producer := .notFull item w nextW }
  | .notFull item w nextW =>
    { s with
      buffer := { s.buffer with data := Function.update s.buffer.data w item }
      producer := .assigned item w nextW }
  | .assigned item w nextW =>
    { s with
      buffer := { s.buffer with writeIdx := nextW }
      producer := .idle
      stored := s.stored ++ [(item, w)]
      pushes := s.pushes ++ [(item, true)] }

/-- The next step of `pop`. -/
def popStep (movedFrom : α → α) (s : Shared α C) : Shared α C :=
  match s.consumer with
  | .idle => s
  | .loaded r =>
    if r = s.buffer.writeIdx then { s with consumer := .idle, pops := s.pops ++ [none] }
    else { s with consumer := .notEmpty r }
  | .notEmpty r =>
    { s with
      buffer := { s.buffer with data := Function.update s.buffer.data r (movedFrom (s.buffer.data r)) }
      consumer := .moved r (s.buffer.data r) }
  | .moved r item =>
    { s with
      buffer := { s.buffer with readIdx := advance r }
      consumer := .idle
      pops := s.pops ++ [some item] }

/-- A side makes one call at a time. -/
def step (movedFrom : α → α) (s : Shared α C) : Event α → Shared α C
  | .push item =>
    match s.producer with
    | .idle => { s with producer := .loaded item s.buffer.writeIdx }
    | _ => s
  | .pushStep => s.pushStep
  | .pop =>
    match s.consumer with
    | .idle => { s with consumer := .loaded s.buffer.readIdx }
    | _ => s
  | .popStep => s.popStep movedFrom

/-- The values popped. -/
def popped (s : Shared α C) : List α := s.pops.filterMap id

/-- The values whose push has returned true. -/
def accepted (s : Shared α C) : List α := (s.pushes.filter (·.2)).map (·.1)

/-- The values stored, in the order of their index stores. -/
def values (s : Shared α C) : List α := s.stored.map (·.1)

/-- The values stored and not popped yet, with their slots. -/
def unread (s : Shared α C) : List (α × Fin C.val) := s.stored.drop s.popped.length

end Shared

end RingBuffer

end PairionClient
