import PairionClient.Lemmas.Playback

/-!
# No byte is lost

Two loops take from the jitter buffer: the one that a frame starts and the one of the drain timer. Both may cut its head
after a partial write. Between two resets, what the device has accepted and what still waits is what was queued.
-/

namespace PairionClient

open Transition

namespace PairionAudioPlayback

/-- The PCM queued along a run. -/
def queued (env : Env) : PairionAudioPlayback → List Event → List Bytes
  | _, [] => []
  | p, e :: es => queues env p e ++ queued env (p.step env e) es

/-- The loop of the source with a bound on its turns: none, when they are used up before the loop is left. -/
def writeTurns : Nat → List Bytes → List Nat → Option (List Bytes × Bytes)
  | 0, _, _ => none
  | _ + 1, [], _ => some ([], [])
  | turns + 1, head :: rest, accepts =>
    let written := min (accepts.headD 0) head.length
    if written = 0 then some (head :: rest, [])
    else if written < head.length then some (head.drop written :: rest, head.take written)
    else (writeTurns turns rest accepts.tail).map fun r => (r.1, head ++ r.2)

/-- Each turn takes a frame off the buffer or leaves the loop. -/
theorem writeTurns_eq (queue : List Bytes) (accepts : List Nat) {turns : Nat} (h : queue.length < turns) :
    writeTurns turns queue accepts = some (writeLoop queue accepts) := by
  induction queue generalizing accepts turns with
  | nil =>
    cases turns with
    | zero => exact absurd h (Nat.lt_irrefl _)
    | succ turns => rfl
  | cons head rest ih =>
    cases turns with
    | zero => exact absurd h (Nat.not_lt_zero _)
    | succ turns =>
      simp only [writeTurns, writeLoop]
      split
      · rfl
      · split
        · rfl
        · rw [ih accepts.tail (Nat.lt_of_succ_lt_succ h), Option.map_some]

/-! ## A step -/

/-- What the loop has written and what it leaves are the queue. -/
theorem writeLoop_conserves (queue : List Bytes) (accepts : List Nat) :
    (writeLoop queue accepts).2 ++ (writeLoop queue accepts).1.flatten = queue.flatten := by
  induction queue generalizing accepts with
  | nil => rfl
  | cons head rest ih =>
    simp only [writeLoop]
    split
    · rfl
    · split
      · -- a partial write: the accepted bytes are cut off the head
        rw [List.flatten_cons, ← List.append_assoc, List.take_append_drop, List.flatten_cons]
      · rw [List.append_assoc, ih, List.flatten_cons]

/-- What a step has written and what it leaves are what was waiting. -/
theorem writes_conserves (env : Env) (p : PairionAudioPlayback) (e : Event) :
    (writes env p e).2 ++ (writes env p e).1.flatten = (waiting env p e).flatten := by
  unfold writes
  split
  · exact writeLoop_conserves _ _
  · rfl

/-- A step that does not close the playback adds what it queues to what is accepted or waits. -/
theorem step_conserves (env : Env) (p : PairionAudioPlayback) {e : Event} (he : e.closes = false) :
    ∃ accepted, pcmBytes (p.step env e).output = pcmBytes p.output ++ accepted ∧
      accepted ++ (p.step env e).jitterBuffer.flatten = p.jitterBuffer.flatten ++ (queues env p e).flatten := by
  obtain ⟨hbuffer, hwritten, -, -⟩ := step_spec env p e
  refine ⟨(writes env p e).2, hwritten, ?_⟩
  rw [hbuffer, writes_conserves, waiting, he, if_neg Bool.false_ne_true, List.flatten_append]

/-- A step that closes it leaves nothing waiting. -/
theorem jitterBuffer_of_closes (env : Env) (p : PairionAudioPlayback) {e : Event} (he : e.closes = true) :
    (p.step env e).jitterBuffer = [] := by
  have hwaiting : waiting env p e = [] := if_pos he
  rw [(step_spec env p e).jitterBuffer, writes, hwaiting]
  split <;> rfl

/-! ## A run -/

/-- Over a run that is not stopped, what the device accepted and what waits are what was queued. -/
theorem run_conserves (env : Env) (p : PairionAudioPlayback) (es : List Event) (hes : ∀ e ∈ es, e.closes = false) :
    ∃ accepted, pcmBytes (run (step env) p es).output = pcmBytes p.output ++ accepted ∧
      accepted ++ (run (step env) p es).jitterBuffer.flatten = p.jitterBuffer.flatten ++ (queued env p es).flatten := by
  induction es generalizing p with
  | nil => exact ⟨[], by simp, by simp [queued]⟩
  | cons e es ih =>
    obtain ⟨first, hout, hfirst⟩ := step_conserves env p (hes e List.mem_cons_self)
    obtain ⟨accepted, hout', hrest⟩ := ih (p.step env e) fun x hx => hes x (List.mem_cons_of_mem e hx)
    refine ⟨first ++ accepted, by rw [run_cons, hout', hout, List.append_assoc], ?_⟩
    calc (first ++ accepted) ++ (run (step env) p (e :: es)).jitterBuffer.flatten
        = first ++ ((p.step env e).jitterBuffer.flatten ++ (queued env (p.step env e) es).flatten) := by
          rw [run_cons, List.append_assoc, hrest]
      _ = p.jitterBuffer.flatten ++ (queues env p e).flatten ++ (queued env (p.step env e) es).flatten := by
          rw [← List.append_assoc, hfirst]
      _ = p.jitterBuffer.flatten ++ (queued env p (e :: es)).flatten := by
          rw [queued, List.flatten_append, List.append_assoc]

/-- After the events `before`, which are none or end with a reset: in a run without another reset, whatever the device
answers, the PCM it has accepted since and the jitter buffer are together the frames passed in since, in order. Both loops
end: a loop makes no more turns than the buffer has frames, and one more to leave. -/
theorem pcm_conserved (env : Env) (opened : Bool) (before es : List Event)
    (hreset : ∀ e ∈ before.getLast?, e.closes = true) (hes : ∀ e ∈ es, e.closes = false) :
    (∃ accepted,
      pcmBytes (run (step env) (.create opened) (before ++ es)).output =
          pcmBytes (run (step env) (.create opened) before).output ++ accepted ∧
        accepted ++ (run (step env) (.create opened) (before ++ es)).jitterBuffer.flatten =
          (queued env (run (step env) (.create opened) before) es).flatten) ∧
      ∀ queue accepts, writeTurns (queue.length + 1) queue accepts = some (writeLoop queue accepts) := by
  have hempty : (run (step env) (.create opened) before).jitterBuffer = [] := by
    rcases List.eq_nil_or_concat before with rfl | ⟨first, last, rfl⟩
    · rfl
    · rw [List.concat_eq_append] at hreset ⊢
      rw [run_append]
      exact jitterBuffer_of_closes env _ (hreset last (by simp))
  obtain ⟨accepted, hout, hbytes⟩ := run_conserves env (run (step env) (.create opened) before) es hes
  rw [hempty, List.flatten_nil, List.nil_append, ← run_append] at hbytes
  rw [← run_append] at hout
  exact ⟨⟨accepted, hout, hbytes⟩, fun queue accepts => writeTurns_eq queue accepts (Nat.lt_succ_self _)⟩

/-- A sink that takes three bytes of two frames, and the rest at two ticks of the drain timer. -/
theorem pcm_conserved_slow_sink :
    let before : List Event := [.handlePcmFrame 0 [9, 9] [], .stop]
    let es : List Event := [.preparePlayback true [4800], .handlePcmFrame 1 [1, 2] [2], .handlePcmFrame 2 [3, 4, 5] [1],
      .handleStreamEnd "normal", .drainTick [1], .drainTick [4]]
    ∃ accepted,
      pcmBytes (run (step .silence) (.create true) (before ++ es)).output =
          pcmBytes (run (step .silence) (.create true) before).output ++ accepted ∧
        accepted ++ (run (step .silence) (.create true) (before ++ es)).jitterBuffer.flatten = [1, 2, 3, 4, 5] :=
  (pcm_conserved .silence true _ _ (by decide) (by decide)).1

end PairionAudioPlayback

end PairionClient
