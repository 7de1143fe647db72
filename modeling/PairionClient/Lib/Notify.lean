import Mathlib.Data.List.Basic

/-!
# Stores that announce their changes

An operation on a store is a program that reads it, writes it and emits signals. Who hears a signal reads the store as it
stands when the signal is emitted, so a signal is recorded with that store. The law of such an operation is `Announced`: the
signal of each property that changed is emitted, and no property changes after a signal (`Announced.announce`: writing first and
emitting after is enough).
-/

namespace Notify

universe u

variable {σ ι π α : Type} {Val : π → Type u}

/-- A store, and the signals emitted, each with the store at its emission. -/
structure Recorded (σ ι : Type) where
  store : σ
  emitted : List (ι × σ) := []

abbrev Program (σ ι : Type) : Type → Type := StateM (Recorded σ ι)

/-- The store as it stands. -/
def current : Program σ ι σ := do
  let r ← get
  return r.store

def write (f : σ → σ) : Program σ ι Unit := modify fun r => { r with store := f r.store }

def emit (i : ι) : Program σ ι Unit := modify fun r => { r with emitted := r.emitted ++ [(i, r.store)] }

/-- Run an operation on a store. -/
def exec (p : Program σ ι Unit) (s : σ) : Recorded σ ι := (p.run { store := s }).2

/-- Write a value unless the store holds it already, and announce it. -/
def setIfDifferent [DecidableEq α] (get : σ → α) (set : α → σ → σ) (i : ι) (v : α) : Program σ ι Unit := do
  if get (← current) ≠ v then
    write (set v)
    emit i

/-- The record of a store that was changed, and of signals emitted after that. -/
def announce (s : σ) (signals : List ι) : Recorded σ ι := { store := s, emitted := signals.map fun i => (i, s) }

/-- What is read first is the store that the operation is run on. -/
theorem exec_current (f : σ → Program σ ι Unit) (s : σ) : exec (current >>= f) s = exec (f s) s := rfl

/-- What is written first is the store that the rest is run on. -/
theorem exec_write (f : σ → σ) (p : Program σ ι Unit) (s : σ) : exec (write f >>= fun _ => p) s = exec p (f s) := rfl

/-- A setter with an equality check writes and announces only a new value. -/
theorem exec_setIfDifferent [DecidableEq α] (get : σ → α) (set : α → σ → σ) (i : ι) (v : α) (s : σ) :
    exec (setIfDifferent get set i v) s = if get s = v then announce s [] else announce (set v s) [i] := by
  rw [setIfDifferent, exec_current, ite_not]
  split <;> rfl

theorem store_setIfDifferent [DecidableEq α] {get : σ → α} {set : α → σ → σ} {i : ι} {v : α} {s : σ}
    (h : set (get s) s = s) : (exec (setIfDifferent get set i v) s).store = set v s := by
  rw [exec_setIfDifferent]
  split
  · subst v
    exact h.symm
  · rfl

/-! ## The law -/

/-- From the store `s`: what changed was announced, and a signal found every property at its last value. -/
structure Announced (value : (p : π) → σ → Val p) (notify : π → ι) (s : σ) (r : Recorded σ ι) : Prop where
  announced : ∀ p, value p s ≠ value p r.store → ∃ e ∈ r.emitted, e.1 = notify p
  settled : ∀ e ∈ r.emitted, ∀ p, value p e.2 = value p r.store

variable {value : (p : π) → σ → Val p} {notify : π → ι} {s s' : σ}

/-- Signals that follow the last write find the store settled. -/
theorem Announced.announce {signals : List ι} (h : ∀ p, value p s ≠ value p s' → notify p ∈ signals) :
    Announced value notify s (announce s' signals) where
  announced p hp := ⟨(notify p, s'), List.mem_map_of_mem (h p hp), rfl⟩
  settled e he p := by
    obtain ⟨i, -, rfl⟩ := List.mem_map.1 he
    rfl

/-- Nothing changes, and nothing is announced. -/
theorem Announced.silent : Announced value notify s (Notify.announce s []) := .announce fun _ h => absurd rfl h

/-- Such a setter announces every change, if no other property depends on what it writes. -/
theorem Announced.setIfDifferent [DecidableEq α] {get : σ → α} {set : α → σ → σ} {i : ι} {v : α}
    (h : ∀ p, notify p ≠ i → value p s = value p (set v s)) :
    Announced value notify s (exec (setIfDifferent get set i v) s) := by
  rw [exec_setIfDifferent]
  split
  · exact .silent
  · refine .announce fun p hp => List.mem_singleton.2 ?_
    by_contra hne
    exact hp (h p hne)

end Notify
