import PairionClient.Lemmas.Threads
import PairionClient.Lib.Fifo

namespace PairionClient

open Transition

/-- The signals whose slots leave Streaming. -/
def Posted.endsStream : Posted → Bool
  | .encoded (.encoderError _) | .vad .speechEnded => true
  | _ => false

namespace Threads

open Fifo (Follows Line)
open AudioSessionOrchestrator (step_spec)

/-! ## The ends of speech that a stream finds in the queue -/

def Streaming (t : Threads) : Prop := t.orchestrator.state = .streaming

instance (t : Threads) : Decidable (Streaming t) := inferInstanceAs (Decidable (_ = _))

/-- The step opens a stream, and resets the VAD. -/
def Opens (E : ThreadsEnv) (t : Threads) (e : Event) : Prop := ¬Streaming t ∧ Streaming (step E t e)

instance (E : ThreadsEnv) (t : Threads) (e : Event) : Decidable (Opens E t e) := inferInstanceAs (Decidable (_ ∧ _))

/-- A stream opened in `t` is still open after the steps `es`, and the signal that the main thread takes next, and that
ends it, is an end of speech posted before the stream was opened. -/
def EndedByStale (E : ThreadsEnv) (t : Threads) (es : List Event) : Prop :=
  Always (step E) Streaming t es ∧
    (run (step E) t es).mainQueue.head? = some (.vad .speechEnded) ∧
    (run (step E) t es).handled.length < t.handled.length + t.mainQueue.length ∧
    ¬Streaming (step E (run (step E) t es) .mainThread)

/-- The queue of the main thread. -/
def line (t : Threads) : Line Posted := ⟨t.handled, t.mainQueue⟩

/-- A step takes from the front of the queue and posts at its end. -/
theorem follows_step (E : ThreadsEnv) (t : Threads) (e : Event) : Follows (line t) (line (step E t e)) := by
  rcases main_cases E t e with ⟨new, vad, hqueue, hhandled, -⟩ | ⟨posted, hqueue, hhandled, -⟩ | ⟨own, -, hqueue, hhandled, -⟩
  · rw [line, line, hqueue, hhandled]
    exact Fifo.follows_post _ _
  · rw [line, line, hqueue, hhandled]
    exact Fifo.follows_take _ _ _
  · rw [line, line, hqueue, hhandled]
    exact .refl _

theorem follows_run (E : ThreadsEnv) (t : Threads) (es : List Event) : Follows (line t) (line (run (step E) t es)) := by
  induction es generalizing t with
  | nil => exact .refl _
  | cons e es ih => exact (follows_step E t e).trans (ih _)

/-- A signal after which the orchestrator is Streaming is none that ends a stream. -/
theorem endsStream_eq_false (env : Env) {o : AudioSessionOrchestrator} {posted : Posted}
    (h : (o.step env posted.event).state = .streaming) : posted.endsStream = false := by
  rw [(step_spec env o posted.event).state] at h
  rcases posted with (opusFrame | reason) | ⟨k, w⟩ | (_ | _) <;> try rfl
  · cases h
  · by_cases hs : o.state = .streaming
    · simp [Posted.event, AudioSessionOrchestrator.move, hs, AudioSessionOrchestrator.Move.target] at h
    · simp [Posted.event, AudioSessionOrchestrator.move, hs, AudioSessionOrchestrator.Move.target] at h

/-- A signal that does not end a stream leaves it open. -/
theorem streaming_of_endsStream (env : Env) {o : AudioSessionOrchestrator} (hs : o.state = .streaming) {posted : Posted}
    (h : posted.endsStream = false) : (o.step env posted.event).state = .streaming := by
  rw [(step_spec env o posted.event).state]
  rcases posted with (opusFrame | reason) | ⟨k, w⟩ | (_ | _) <;>
    simp_all [Posted.event, Posted.endsStream, AudioSessionOrchestrator.move, AudioSessionOrchestrator.Move.target]

/-- What a step that ends in Streaming takes from the queue ends no stream. -/
theorem handled_step (E : ThreadsEnv) {t : Threads} {e : Event} (h : Streaming (step E t e)) :
    ∃ out, (step E t e).handled = t.handled ++ out ∧ ∀ posted ∈ out, posted.endsStream = false := by
  rcases main_cases E t e with ⟨new, vad, -, hhandled, -⟩ | ⟨posted, -, hhandled, ho⟩ | ⟨own, -, -, hhandled, -⟩
  · exact ⟨[], by simp [hhandled], nofun⟩
  · refine ⟨[posted], hhandled, fun p hp => ?_⟩
    rw [Streaming, ho] at h
    rw [List.mem_singleton.1 hp]
    exact endsStream_eq_false E.toEnv h
  · exact ⟨[], by simp [hhandled], nofun⟩

/-- While a stream stays open, none of the signals handled ends streams. -/
theorem handled_run (E : ThreadsEnv) {t : Threads} {es : List Event} (h : Always (step E) Streaming t es) :
    ∃ out, (run (step E) t es).handled = t.handled ++ out ∧ ∀ posted ∈ out, posted.endsStream = false := by
  induction es generalizing t with
  | nil => exact ⟨[], by simp, nofun⟩
  | cons e es ih =>
    obtain ⟨-, hrest⟩ := (always_cons t e es).1 h
    obtain ⟨out, hout, hends⟩ := handled_step E (hrest [] List.nil_prefix)
    obtain ⟨out', hout', hends'⟩ := ih hrest
    refine ⟨out ++ out', by rw [run_cons, hout', hout, List.append_assoc], fun p hp => ?_⟩
    exact (List.mem_append.1 hp).elim (hends p) (hends' p)

/-- The main thread takes signals that do not end the stream. -/
theorem run_mainThread (E : ThreadsEnv) {t : Threads} (hs : Streaming t) {as rest : List Posted}
    (hqueue : t.mainQueue = as ++ rest) (has : ∀ posted ∈ as, posted.endsStream = false) :
    Always (step E) Streaming t (List.replicate as.length .mainThread) ∧
      (run (step E) t (List.replicate as.length .mainThread)).mainQueue = rest ∧
      (run (step E) t (List.replicate as.length .mainThread)).handled = t.handled ++ as := by
  induction as generalizing t with
  | nil => exact ⟨(always_nil t).2 hs, hqueue, by simp⟩
  | cons posted as ih =>
    have hstep : step E t .mainThread =
        { t with
          mainQueue := as ++ rest, handled := t.handled ++ [posted]
          orchestrator := t.orchestrator.step E.toEnv posted.event } := by
      rw [step, runMain, hqueue]
      rfl
    have hs' : Streaming (step E t .mainThread) := by
      rw [hstep]
      exact streaming_of_endsStream E.toEnv hs (has posted List.mem_cons_self)
    obtain ⟨halways, hrest, hhandled⟩ := ih hs' (by rw [hstep]) fun p hp => has p (List.mem_cons_of_mem posted hp)
    refine ⟨(always_cons _ _ _).2 ⟨hs, halways⟩, hrest, hhandled.trans ?_⟩
    rw [hstep]
    simp

/-- A step that opens a stream is the main thread's, and leaves the signals that end streams in the queue. -/
theorem find_endsStream_of_opens (E : ThreadsEnv) {t : Threads} {e : Event} (h : Opens E t e) :
    (step E t e).mainQueue.find? Posted.endsStream = t.mainQueue.find? Posted.endsStream := by
  obtain ⟨hs, hs'⟩ := h
  rw [Streaming] at hs hs'
  rcases main_cases E t e with ⟨new, vad, -, -, ho⟩ | ⟨posted, hqueue, -, ho⟩ | ⟨own, -, hqueue, -, -⟩
  · rw [ho] at hs'
    exact absurd hs' hs
  · rw [ho] at hs'
    rw [hqueue, List.find?_cons, endsStream_eq_false E.toEnv hs']
  · rw [hqueue]

/-- No end of speech that a new stream finds in the queue can end it exactly when what would end it first is none. -/
theorem not_endedByStale_iff (E : ThreadsEnv) {t : Threads} (hs : Streaming t) :
    (∀ es, ¬EndedByStale E t es) ↔ t.mainQueue.find? Posted.endsStream ≠ some (.vad .speechEnded) := by
  constructor
  · intro h hfind
    obtain ⟨hends, as, bs, hqueue, has⟩ := List.find?_eq_some_iff_append.1 hfind
    obtain ⟨halways, hrest, hhandled⟩ := run_mainThread E hs hqueue (by simpa using has)
    refine h _ ⟨halways, by rw [hrest]; rfl, ?_, fun hstreaming => ?_⟩
    · rw [hhandled, hqueue, List.length_append, List.length_append, List.length_cons]
      omega
    · rw [step, runMain, hrest] at hstreaming
      exact absurd (endsStream_eq_false E.toEnv hstreaming) (by decide)
  · rintro h es ⟨halways, hhead, hfew, -⟩
    obtain ⟨rest, hqueue⟩ := List.head?_eq_some_iff.1 hhead
    obtain ⟨out, rest', hout, hwaiting⟩ := (follows_run E t es).next hqueue hfew
    obtain ⟨out', hout', hends⟩ := handled_run E halways
    obtain rfl : out = out' := List.append_cancel_left (hout.symm.trans hout')
    exact h (List.find?_eq_some_iff_append.2 ⟨rfl, out, rest', hwaiting, by simpa using hends⟩)

/-- In every run: no stream opened in it is ended, however it goes on, by an end of speech from before the VAD was reset
for it, exactly when at each opening the first signal in the queue that ends streams, if there is one, is not an end of
speech. The queue is meant as it stands when the VAD is reset: the slot that opens the stream and resets the VAD is one
step. -/
theorem no_stale_speech_iff (E : ThreadsEnv) (t : Threads) (es : List Event) :
    EveryStep (step E) (fun t e => Opens E t e → ∀ es', ¬EndedByStale E (step E t e) es') t es ↔
      EveryStep (step E) (fun t e => Opens E t e → t.mainQueue.find? Posted.endsStream ≠ some (.vad .speechEnded)) t es := by
  refine everyStep_congr (fun t e => forall_congr' fun hopens => ?_) t es
  rw [not_endedByStale_iff E hopens.2, find_endsStream_of_opens E hopens]

/-- Speech in three frames and silence in five, the wake word at the fourth, and the silence over before the main thread
handles it. -/
def speechThenWake : List Event :=
  [100, 100, 100, 0, 0, 0, 0, 0].map (fun b => .audioFrameAvailable (flatFrame b)) ++ List.replicate 10 .inferenceThread ++
    [.own (.timePasses 800)] ++ List.replicate 4 .inferenceThread ++ [.mainThread]

/-- The end of the speech that held the wake word waits behind it, and ends the stream that the wake word opens. -/
theorem no_stale_speech_false :
    ¬∀ (E : ThreadsEnv) (o : AudioSessionOrchestrator) (d : OpenWakewordDetector) (es : List Event) (e : Event)
      (es' : List Event),
      d.preRollBuffer = [] → Opens E (run (step E) (start o d) es) e →
        ¬EndedByStale E (step E (run (step E) (start o d) es) e) es' := by
  intro h
  refine h tagged listening primed speechThenWake .mainThread [] rfl (by decide +kernel) ⟨?_, ?_, ?_, ?_⟩
  · rw [always_nil]
    decide +kernel
  · decide +kernel
  · decide +kernel
  · decide +kernel

end Threads

end PairionClient
