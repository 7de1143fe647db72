import Mathlib.Data.List.DropRight
import PairionClient.Lib.Run
import PairionClient.Util.Logger

/-!
# Log records are forwarded once

What the flushes took and what waits in the buffer are the records in the order in which they were enqueued. A record is known
from the history alone: the thread's step is its `3k + 3`rd, the call is its `k`-th, and the session id is the one in force at
the thread's last step before.
-/

namespace PairionClient

open Transition

namespace Logger

variable {τ : Type}

/-! ## The records of a history -/

/-- The session id that an event sets. -/
def Event.sessionId? : Event τ → Option String
  | .setSessionId sessionId => some sessionId
  | _ => none

/-- The session id in force after these events. -/
def inForce (es : List (Event τ)) : String := (es.filterMap Event.sessionId?).getLast?.getD ""

/-- Other events leave the session id in force. -/
theorem inForce_concat_of_none {es : List (Event τ)} {e : Event τ} (h : e.sessionId? = none) :
    inForce (es ++ [e]) = inForce es := by
  simp [inForce, List.filterMap_append, h]

/-- A session id is in force once it is set. -/
theorem inForce_concat_setSessionId {es : List (Event τ)} (sessionId : String) :
    inForce (es ++ [.setSessionId sessionId]) = sessionId := by
  simp [inForce, Event.sessionId?]

/-! ## The two copies of the JSON form -/

/-- The two functions write a record in the same way. -/
theorem pendingRecords_eq (l : Logger τ) : l.pendingRecords = flushArray l.buffer := rfl

/-- A flush that finds no record returns at once. -/
theorem flush_of_empty {l : Logger τ} (hbatch : l.batch = none) (hbuffer : l.buffer = []) : l.flush = l := by
  rw [flush, hbatch]
  exact if_pos hbuffer

/-- A flush that finds records takes them all, and has not posted them yet. -/
theorem flush_of_records {l : Logger τ} (hbatch : l.batch = none) (hbuffer : l.buffer ≠ []) :
    l.flush.batch = some l.buffer ∧ l.flush.posted = l.posted := by
  rw [flush, hbatch]
  simp [takeBatch, hbuffer]

/-- A flush that has taken a batch posts its array, and leaves the buffer as it is. -/
theorem flush_of_running {l : Logger τ} {batch : List LogRecord} (hbatch : l.batch = some batch) :
    l.flush = l.post batch := by
  rw [flush, hbatch]

variable [DecidableEq τ]

/-- How many steps a thread took. -/
def steps (t : τ) (es : List (Event τ)) : Nat := es.count (.handler t)

/-- The events before the last step of a thread. -/
def beforeLast (t : τ) (es : List (Event τ)) : List (Event τ) := (es.rdropWhile fun e => e ≠ .handler t).dropLast

/-- The record of a call that read this session id. -/
def recordOf (call : LogCall) (sessionId : String) : LogRecord where
  timestamp := call.timestamp
  level := levelString call.type
  message := call.msg
  sessionId := sessionId

/-- A record, with the thread that enqueued it. -/
structure Entry (τ : Type) where
  thread : τ
  record : LogRecord

variable (calls : τ → Nat → LogCall)

/-- What an event enqueues after the events before it: every third step of a thread enqueues the record of its call, with
the session id that was in force at its step before. -/
def enqueued (es : List (Event τ)) : Event τ → List (Entry τ)
  | .handler t =>
    if steps t es % 3 = 2 then [⟨t, recordOf (calls t (steps t es / 3)) (inForce (beforeLast t es))⟩] else []
  | _ => []

def entriesFrom (before : List (Event τ)) : List (Event τ) → List (Entry τ)
  | [] => []
  | e :: es => enqueued calls before e ++ entriesFrom (before ++ [e]) es

/-- The records in the order in which they are enqueued. -/
def entries (es : List (Event τ)) : List (Entry τ) := entriesFrom calls [] es

variable {calls} {es : List (Event τ)} {t t' : τ} {e : Event τ} {l : Logger τ}

theorem entriesFrom_concat (before es : List (Event τ)) (e : Event τ) :
    entriesFrom calls before (es ++ [e]) = entriesFrom calls before es ++ enqueued calls (before ++ es) e := by
  induction es generalizing before with
  | nil => simp [entriesFrom]
  | cons x es ih => rw [List.cons_append, entriesFrom, entriesFrom, ih, List.append_assoc, List.append_assoc, List.singleton_append]

theorem entries_concat : entries calls (es ++ [e]) = entries calls es ++ enqueued calls es e := entriesFrom_concat [] es e

theorem steps_concat_self : steps t (es ++ [.handler t]) = steps t es + 1 := by
  simp [steps, List.count_append]

/-- Other events are no steps of it. -/
theorem steps_concat_of_ne (h : e ≠ .handler t) : steps t (es ++ [e]) = steps t es := by
  simp [steps, List.count_append, h]

theorem beforeLast_concat_self : beforeLast t (es ++ [.handler t]) = es := by
  simp [beforeLast]

/-- Other events leave what was before the last step of a thread. -/
theorem beforeLast_concat_of_ne (h : e ≠ .handler t) : beforeLast t (es ++ [e]) = beforeLast t es := by
  simp [beforeLast, h]

/-- The records of one thread are those of its calls, in their order. -/
theorem entries_of_thread (calls : τ → Nat → LogCall) (es : List (Event τ)) (t : τ) :
    ((entries calls es).filter fun e => e.thread = t).map (fun e => (e.record.timestamp, e.record.level, e.record.message)) =
      (List.range (steps t es / 3)).map fun k => ((calls t k).timestamp, levelString (calls t k).type, (calls t k).msg) := by
  induction es using List.reverseRecOn with
  | nil => simp [entries, entriesFrom, steps]
  | append_singleton es e ih =>
    rw [entries_concat, List.filter_append, List.map_append, ih]
    by_cases he : e = .handler t
    · subst he
      rw [steps_concat_self, enqueued]
      by_cases hlast : steps t es % 3 = 2
      · have hreturn : (steps t es + 1) / 3 = steps t es / 3 + 1 := by omega
        rw [if_pos hlast, hreturn, List.range_succ, List.map_append]
        simp [recordOf]
      · have hsame : (steps t es + 1) / 3 = steps t es / 3 := by omega
        rw [if_neg hlast, hsame]
        simp
    · have hnone : (enqueued calls es e).filter (fun e => e.thread = t) = [] := by
        cases e with
        | handler t' =>
          have hne : t' ≠ t := fun heq => he (heq ▸ rfl)
          rw [enqueued]
          split
          · simp [hne]
          · rfl
        | setSessionId sessionId => rfl
        | flush => rfl
      rw [steps_concat_of_ne he, hnone, List.map_nil, List.append_nil]

/-! ## The logger follows the history -/

/-- Where a thread is after these events. -/
def handlerAfter (calls : τ → Nat → LogCall) (t : τ) (es : List (Event τ)) : LogHandler :=
  let call := calls t (steps t es / 3)
  match steps t es % 3 with
  | 0 => .outside
  | 1 => .built (recordOf call "")
  | _ => .stamped (recordOf call (inForce (beforeLast t es)))

/-- Other events leave where a thread is in its call. -/
theorem handlerAfter_concat_of_ne (h : e ≠ .handler t) : handlerAfter calls t (es ++ [e]) = handlerAfter calls t es := by
  rw [handlerAfter, steps_concat_of_ne h, beforeLast_concat_of_ne h, handlerAfter]

structure Inv (calls : τ → Nat → LogCall) (es : List (Event τ)) (l : Logger τ) : Prop where
  sessionId : l.sessionId = inForce es
  returned : ∀ t, l.returned t = steps t es / 3
  handlers : ∀ t, l.handlers t = handlerAfter calls t es
  records : l.taken.flatten ++ l.buffer = (entries calls es).map fun e => e.record
  arrays : l.posted ++ (l.batch.map flushArray).toList = l.taken.map flushArray

/-- A new logger has enqueued nothing. -/
theorem inv_create : Inv calls [] {} where
  sessionId := rfl
  returned _ := by simp [steps]
  handlers _ := by simp [handlerAfter, steps]
  records := rfl
  arrays := rfl

/-- A step of a thread changes the counts of that thread alone. -/
theorem returned_concat {n : Nat} (h : ∀ t, l.returned t = steps t es / 3) (hself : (steps t es + 1) / 3 = n) (t' : τ) :
    Function.update l.returned t n t' = steps t' (es ++ [.handler t]) / 3 := by
  by_cases heq : t' = t
  · subst heq
    rw [Function.update_self, steps_concat_self, hself]
  · rw [Function.update_of_ne heq, steps_concat_of_ne fun he => heq (Event.handler.inj he).symm, h]

theorem handlers_concat {handler : LogHandler} (h : ∀ t, l.handlers t = handlerAfter calls t es)
    (hself : handlerAfter calls t (es ++ [.handler t]) = handler) (t' : τ) :
    Function.update l.handlers t handler t' = handlerAfter calls t' (es ++ [.handler t]) := by
  by_cases heq : t' = t
  · subst heq
    rw [Function.update_self, hself]
  · rw [Function.update_of_ne heq, handlerAfter_concat_of_ne fun he => heq (Event.handler.inj he).symm, h]

/-- A step of a thread that enqueues nothing. -/
theorem Inv.setHandler (h : Inv calls es l) {handler : LogHandler} (hturn : steps t es % 3 ≠ 2)
    (hhandler : handlerAfter calls t (es ++ [.handler t]) = handler) :
    Inv calls (es ++ [.handler t]) (l.setHandler t handler) where
  sessionId := h.sessionId.trans (inForce_concat_of_none rfl).symm
  returned t' := by
    have hsame : (steps t es + 1) / 3 = l.returned t := by rw [h.returned]; omega
    rw [← returned_concat h.returned hsame, Function.update_eq_self]
    rfl
  handlers t' := handlers_concat h.handlers hhandler t'
  records := by
    rw [entries_concat, enqueued, if_neg hturn, List.append_nil]
    exact h.records
  arrays := h.arrays

/-- A step of a call keeps the invariant; the last one enqueues the record. -/
theorem Inv.messageHandler (h : Inv calls es l) (t : τ) :
    Inv calls (es ++ [.handler t]) (l.messageHandler t (calls t (l.returned t))) := by
  have hhandler := h.handlers t
  have hcases : steps t es % 3 = 0 ∨ steps t es % 3 = 1 ∨ steps t es % 3 = 2 := by omega
  rw [h.returned, Logger.messageHandler]
  rcases hcases with hturn | hturn | hturn
  · -- the call begins: its record has no session id yet
    rw [handlerAfter, hturn] at hhandler
    rw [hhandler]
    refine h.setHandler (by omega) ?_
    have hnext : (steps t es + 1) % 3 = 1 := by omega
    have hsame : (steps t es + 1) / 3 = steps t es / 3 := by omega
    rw [handlerAfter, steps_concat_self, hnext, hsame]
    rfl
  · -- it reads the session id that is in force now
    rw [handlerAfter, hturn] at hhandler
    rw [hhandler]
    refine h.setHandler (by omega) ?_
    have hnext : (steps t es + 1) % 3 = 2 := by omega
    have hsame : (steps t es + 1) / 3 = steps t es / 3 := by omega
    rw [handlerAfter, steps_concat_self, hnext, hsame, beforeLast_concat_self, h.sessionId]
    rfl
  · rw [handlerAfter, hturn] at hhandler
    rw [hhandler]
    have hnext : (steps t es + 1) % 3 = 0 := by omega
    refine ⟨h.sessionId.trans (inForce_concat_of_none rfl).symm, fun t' => ?_, fun t' => ?_, ?_, h.arrays⟩
    · refine returned_concat h.returned ?_ t'
      rw [h.returned]
      omega
    · refine handlers_concat h.handlers ?_ t'
      rw [handlerAfter, steps_concat_self, hnext]
      rfl
    · rw [entries_concat, enqueued, if_pos hturn, List.map_append, ← h.records, List.append_assoc]
      rfl

/-- An event that is not a step of a thread. -/
theorem Inv.other (h : Inv calls es l) (he : ∀ t, e ≠ .handler t) {l' : Logger τ} (hsession : l'.sessionId = inForce (es ++ [e]))
    (hreturned : l'.returned = l.returned) (hhandlers : l'.handlers = l.handlers)
    (hrecords : l'.taken.flatten ++ l'.buffer = l.taken.flatten ++ l.buffer)
    (harrays : l'.posted ++ (l'.batch.map flushArray).toList = l'.taken.map flushArray) : Inv calls (es ++ [e]) l' where
  sessionId := hsession
  returned t := by rw [hreturned, steps_concat_of_ne (he t), h.returned]
  handlers t := by rw [hhandlers, handlerAfter_concat_of_ne (he t), h.handlers]
  records := by
    have hnone : enqueued calls es e = [] := by
      cases e with
      | handler t => exact absurd rfl (he t)
      | setSessionId sessionId => rfl
      | flush => rfl
    rw [hrecords, entries_concat, hnone, List.append_nil, h.records]
  arrays := harrays

/-- A new session id keeps the invariant. -/
theorem Inv.setSessionId (h : Inv calls es l) (sessionId : String) :
    Inv calls (es ++ [.setSessionId sessionId]) (l.setSessionId sessionId) :=
  h.other (by simp) (inForce_concat_setSessionId sessionId).symm rfl rfl rfl h.arrays

/-- The locked section of a flush moves the buffer to the batches taken. -/
theorem Inv.takeBatch (h : Inv calls es l) (hbatch : l.batch = none) : Inv calls (es ++ [.flush]) l.takeBatch := by
  have hne (t : τ) : (Event.flush : Event τ) ≠ .handler t := by simp
  have hsession : l.sessionId = inForce (es ++ [.flush]) := h.sessionId.trans (inForce_concat_of_none rfl).symm
  have harrays : l.posted = l.taken.map flushArray := by simpa [hbatch] using h.arrays
  by_cases hbuffer : l.buffer = []
  · rw [Logger.takeBatch, if_pos hbuffer]
    exact h.other hne hsession rfl rfl rfl h.arrays
  · rw [Logger.takeBatch, if_neg hbuffer]
    refine h.other hne hsession rfl rfl ?_ ?_
    · simp
    · simp [harrays]

/-- The rest of the flush posts the array of its batch. -/
theorem Inv.post {batch : List LogRecord} (h : Inv calls es l) (hbatch : l.batch = some batch) :
    Inv calls (es ++ [.flush]) (l.post batch) := by
  have hsession : l.sessionId = inForce (es ++ [.flush]) := h.sessionId.trans (inForce_concat_of_none rfl).symm
  have harrays : l.posted ++ [flushArray batch] = l.taken.map flushArray := by simpa [hbatch] using h.arrays
  refine h.other (by simp) hsession rfl rfl rfl ?_
  simpa [Logger.post] using harrays

theorem Inv.flush (h : Inv calls es l) : Inv calls (es ++ [.flush]) l.flush := by
  cases hbatch : l.batch with
  | none =>
    rw [Logger.flush, hbatch]
    exact h.takeBatch hbatch
  | some batch =>
    rw [Logger.flush, hbatch]
    exact h.post hbatch

/-- Every event keeps the invariant. -/
theorem Inv.step (h : Inv calls es l) (e : Event τ) : Inv calls (es ++ [e]) (l.step calls e) := by
  cases e with
  | handler t => exact h.messageHandler t
  | setSessionId sessionId => exact h.setSessionId sessionId
  | flush => exact h.flush

/-! ## A flush, with other steps between its sections -/

/-- Only the logger's own thread takes batches and posts. -/
theorem step_frame (calls : τ → Nat → LogCall) (l : Logger τ) (he : e ≠ .flush) :
    (l.step calls e).batch = l.batch ∧ (l.step calls e).posted = l.posted := by
  cases e with
  | handler t =>
    simp only [Logger.step, Logger.messageHandler]
    cases l.handlers t <;> exact ⟨rfl, rfl⟩
  | setSessionId sessionId => exact ⟨rfl, rfl⟩
  | flush => exact absurd rfl he

/-- Without a flush between, the batch and the posts stay. -/
theorem run_frame (calls : τ → Nat → LogCall) (l : Logger τ) (hes : Event.flush ∉ es) :
    (run (Logger.step calls) l es).batch = l.batch ∧ (run (Logger.step calls) l es).posted = l.posted := by
  induction es generalizing l with
  | nil => exact ⟨rfl, rfl⟩
  | cons e es ih =>
    obtain ⟨hne, hes⟩ := not_or.1 (mt List.mem_cons.2 hes)
    obtain ⟨hbatch, hposted⟩ := step_frame calls l fun he => hne he.symm
    obtain ⟨hbatch', hposted'⟩ := ih (l.step calls e) hes
    exact ⟨hbatch'.trans hbatch, hposted'.trans hposted⟩

/-- The two sections of a flush that finds records: what was pending when it began is posted. -/
theorem posted_of_records (l : Logger τ) (hbatch : l.batch = none) (hbuffer : l.buffer ≠ []) (hes : Event.flush ∉ es) :
    (run (Logger.step calls) l (.flush :: es ++ [.flush])).posted = l.posted ++ [l.pendingRecords] := by
  obtain ⟨htaken, hposted⟩ := flush_of_records hbatch hbuffer
  obtain ⟨hbatch', hposted'⟩ := run_frame calls l.flush hes
  rw [run_append, run_cons, run_cons, run_nil]
  show (Logger.flush (run (Logger.step calls) l.flush es)).posted = _
  rw [flush_of_running (hbatch'.trans htaken), Logger.post, hposted', hposted, pendingRecords_eq]

/-! ## The theorem -/

/-- At every point the batches taken and then the buffer are the records in the order in which they were enqueued, those
of a thread in the order of its calls, each with the session id in force when the call read it; the arrays posted, with
the one of the flush that is running, are those of the batches taken. Where none is running, the next flush posts
`pendingRecords()` and nothing else, whatever other threads do between its two sections, and nothing when there are none;
a flush that is running posts the array of its batch, whatever was enqueued since. -/
theorem records_forwarded_once (calls : τ → Nat → LogCall) (es : List (Event τ)) :
    let l := run (Logger.step calls) {} es
    l.taken.flatten ++ l.buffer = (entries calls es).map (fun e => e.record) ∧
      (∀ t, ((entries calls es).filter fun e => e.thread = t).map
          (fun e => (e.record.timestamp, e.record.level, e.record.message)) =
        (List.range (steps t es / 3)).map fun k => ((calls t k).timestamp, levelString (calls t k).type, (calls t k).msg)) ∧
      l.posted ++ (l.batch.map flushArray).toList = l.taken.map flushArray ∧
      (l.batch = none → ∀ between, Event.flush ∉ between →
        if l.pendingRecords = [] then l.flush = l
        else (run (Logger.step calls) l (.flush :: between ++ [.flush])).posted = l.posted ++ [l.pendingRecords]) ∧
      ∀ batch, l.batch = some batch →
        l.flush.posted = l.posted ++ [flushArray batch] ∧ l.flush.batch = none ∧ l.flush.pendingRecords = l.pendingRecords := by
  intro l
  have h : Inv calls es l := run_history (Inv calls) inv_create (fun _ _ e h => h.step e) es
  have hempty : l.pendingRecords = [] ↔ l.buffer = [] := List.map_eq_nil_iff
  refine ⟨h.records, entries_of_thread calls es, h.arrays, fun hbatch between hbetween => ?_, fun batch hbatch => ?_⟩
  · by_cases hnone : l.pendingRecords = []
    · rw [if_pos hnone]
      exact flush_of_empty hbatch (hempty.1 hnone)
    · rw [if_neg hnone]
      exact posted_of_records l hbatch (mt hempty.2 hnone) hbetween
  · rw [flush_of_running hbatch]
    exact ⟨rfl, rfl, rfl⟩

/-- Two calls overlap: the one that began first reads the old session id, and is enqueued last. -/
example :
    let calls (t : Bool) (_ : Nat) : LogCall := ⟨.info, if t then "first" else "second", "12:00"⟩
    let es : List (Event Bool) :=
      [.handler true, .handler true, .setSessionId "s1", .handler false, .handler false, .handler false, .handler true]
    (run (Logger.step calls) {} es).buffer =
      [⟨"12:00", "INFO", "second", "s1"⟩, ⟨"12:00", "INFO", "first", ""⟩] := by
  decide

end Logger

end PairionClient
