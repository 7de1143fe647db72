import PairionClient.Lemmas.Playback

/-!
# Frames that come after a stop

A playback that is closed still queues the frames it is handed. Beside the playback, the run is told which of the queued
frames came while it was closed, and from which frames the bytes came that the device has accepted.
-/

namespace PairionClient

open Transition

namespace PairionAudioPlayback

/-! ## The queue, frame by frame -/

/-- A frame in the jitter buffer, or what is left of it, and whether it came while the playback was closed. -/
structure QueuedFrame where
  late : Bool
  data : Bytes
  deriving DecidableEq, Repr

/-- `writeLoop` over frames that are told apart: what stays in the queue, and the pieces accepted. -/
def writeFrames : List QueuedFrame → List Nat → List QueuedFrame × List QueuedFrame
  | [], _ => ([], [])
  | head :: rest, accepts =>
    let written := min (accepts.headD 0) head.data.length
    if written = 0 then (head :: rest, [])
    else if written < head.data.length then
      ({ head with data := head.data.drop written } :: rest, [{ head with data := head.data.take written }])
    else
      let r := writeFrames rest accepts.tail
      (r.1, head :: r.2)

/-- The playback, whether it is closed, its queue frame by frame, and the pieces of frames that the device has accepted.
-/
structure Watched where
  playback : PairionAudioPlayback
  closed : Bool := false
  queue : List QueuedFrame := []
  accepted : List QueuedFrame := []

/-- The frames that wait to be written in a step. -/
def Watched.waiting (env : Env) (w : Watched) (e : Event) : List QueuedFrame :=
  if e.closes then [] else w.queue ++ (queues env w.playback e).map (⟨w.closed, ·⟩)

def Watched.writes (env : Env) (w : Watched) (e : Event) : List QueuedFrame × List QueuedFrame :=
  match answers env w.playback e with
  | some accepts => writeFrames (w.waiting env e) accepts
  | none => (w.waiting env e, [])

def Watched.step (env : Env) (w : Watched) (e : Event) : Watched :=
  { playback := w.playback.step env e
    closed := e.closes || (w.closed && !e.opens)
    queue := (w.writes env e).1
    accepted := w.accepted ++ (w.writes env e).2 }

/-! ## The frames are those of the playback -/

/-- The queue holds the jitter buffer, and the pieces accepted are the PCM that the device has accepted. -/
structure Watched.Tells (w : Watched) : Prop where
  queue : w.queue.map (·.data) = w.playback.jitterBuffer
  accepted : w.accepted.flatMap (·.data) = pcmBytes w.playback.output

/-- The loop over tagged frames writes and leaves what the loop over bytes does. -/
theorem writeFrames_data (queue : List QueuedFrame) (accepts : List Nat) :
    (writeFrames queue accepts).1.map (·.data) = (writeLoop (queue.map (·.data)) accepts).1 ∧
      (writeFrames queue accepts).2.flatMap (·.data) = (writeLoop (queue.map (·.data)) accepts).2 := by
  induction queue generalizing accepts with
  | nil => exact ⟨rfl, rfl⟩
  | cons head rest ih =>
    obtain ⟨hqueue, haccepted⟩ := ih accepts.tail
    simp only [writeFrames, writeLoop, List.map_cons]
    split
    · exact ⟨rfl, rfl⟩
    · split
      · exact ⟨rfl, by simp⟩
      · exact ⟨hqueue, by simp [haccepted]⟩

/-- Every event keeps the tagged queue that of the playback. -/
theorem tells_step (env : Env) {w : Watched} (h : w.Tells) (e : Event) : (w.step env e).Tells := by
  obtain ⟨hbuffer, hout, -, -⟩ := step_spec env w.playback e
  have hwaiting : (w.waiting env e).map (·.data) = waiting env w.playback e := by
    unfold Watched.waiting waiting
    split
    · rfl
    · rw [List.map_append, h.queue, List.map_map]
      simp [Function.comp_def]
  have hwrites : (w.writes env e).1.map (·.data) = (writes env w.playback e).1 ∧
      (w.writes env e).2.flatMap (·.data) = (writes env w.playback e).2 := by
    unfold Watched.writes writes
    cases answers env w.playback e with
    | none => exact ⟨hwaiting, rfl⟩
    | some accepts =>
      obtain ⟨hqueue, haccepted⟩ := writeFrames_data (w.waiting env e) accepts
      rw [hwaiting] at hqueue haccepted
      exact ⟨hqueue, haccepted⟩
  refine ⟨?_, ?_⟩
  · rw [Watched.step, hbuffer]
    exact hwrites.1
  · simp only [Watched.step]
    rw [List.flatMap_append, h.accepted, hwrites.2, hout]

/-- What a run is told of the frames is true of the playback. -/
theorem tells_run (env : Env) (opened : Bool) (es : List Event) :
    (run (Watched.step env) { playback := create opened } es).Tells :=
  inv_run_of_step Watched.Tells (fun _ e h => tells_step env h e) es ⟨rfl, rfl⟩

/-! ## Late frames -/

/-- No byte of a late frame has been written to the device. -/
def Watched.NoLateWrite (w : Watched) : Prop := ∀ piece ∈ w.accepted, piece.late = false

/-- The device takes bytes while a late frame heads the queue. -/
def Watched.TakesLate (env : Env) (w : Watched) (e : Event) : Prop :=
  ∃ accepts frame rest, answers env w.playback e = some accepts ∧ 0 < accepts.headD 0 ∧ w.queue = frame :: rest ∧
    frame.late = true ∧ frame.data ≠ []

/-- Late frames come first in the queue, as a playback that is closed has no device and its queue was cleared. -/
structure Watched.LateFirst (w : Watched) : Prop where
  noLateWrite : w.NoLateWrite
  sorted : (w.queue.map (·.late)).Pairwise fun f g => g = true → f = true
  closed : w.closed = true → w.playback.audioDevice = false ∧ ∀ f ∈ w.queue, f.late = true

/-- What the loop writes and what it leaves keep the order of the queue. -/
theorem writeFrames_sublist (queue : List QueuedFrame) (accepts : List Nat) :
    ((writeFrames queue accepts).1.map (·.late)).Sublist (queue.map (·.late)) ∧
      ((writeFrames queue accepts).2.map (·.late)).Sublist (queue.map (·.late)) := by
  induction queue generalizing accepts with
  | nil => exact ⟨List.Sublist.refl _, List.Sublist.refl _⟩
  | cons head rest ih =>
    obtain ⟨hqueue, haccepted⟩ := ih accepts.tail
    simp only [writeFrames, List.map_cons]
    split
    · exact ⟨List.Sublist.refl _, List.nil_sublist _⟩
    · split
      · exact ⟨List.Sublist.refl _, List.Sublist.cons_cons _ (List.nil_sublist _)⟩
      · exact ⟨hqueue.cons _, haccepted.cons_cons _⟩

/-- Nothing is written from a queue whose head the device does not take. -/
theorem writeFrames_blocked {head : QueuedFrame} {rest : List QueuedFrame} {accepts : List Nat}
    (h : ¬(0 < accepts.headD 0 ∧ head.data ≠ [])) : writeFrames (head :: rest) accepts = (head :: rest, []) := by
  have hzero : min (accepts.headD 0) head.data.length = 0 := by
    by_contra hne
    refine h ⟨by omega, ?_⟩
    rintro hnil
    simp [hnil] at hne
  simp only [writeFrames, hzero, if_true]

/-- The first piece written is of the head of the queue. -/
theorem writeFrames_head {head : QueuedFrame} (rest : List QueuedFrame) {accepts : List Nat} (hpos : 0 < accepts.headD 0)
    (hne : head.data ≠ []) : ∃ piece ∈ (writeFrames (head :: rest) accepts).2, piece.late = head.late := by
  have hlen := List.length_pos_of_ne_nil hne
  have hwritten : min (accepts.headD 0) head.data.length ≠ 0 := by omega
  simp only [writeFrames, hwritten, if_false]
  split
  · exact ⟨_, List.mem_singleton_self _, rfl⟩
  · exact ⟨head, List.mem_cons_self, rfl⟩

/-- An event that closes the playback asks nothing of the device. -/
theorem answers_of_closes (env : Env) (p : PairionAudioPlayback) {e : Event} (h : e.closes = true) :
    answers env p e = none := by
  unfold answers
  split
  · rfl
  · cases e with
    | stop => rfl
    | handleStreamEnd reason => rfl
    | _ => cases h

/-- An event that the device answers does not close the playback. -/
theorem not_closes_of_answers (env : Env) {p : PairionAudioPlayback} {e : Event} {accepts : List Nat}
    (h : answers env p e = some accepts) : e.closes = false := by
  by_contra hc
  have hnone := answers_of_closes env p (by simpa using hc)
  rw [hnone] at h
  cases h

/-- Without a device there is no answer. -/
theorem answers_of_no_device (env : Env) {p : PairionAudioPlayback} (h : p.audioDevice = false) (e : Event) :
    answers env p e = none := if_pos h

/-- A playback that is open takes bytes of frames that are not late, unless the device takes them of a late head. -/
theorem not_late_of_writes (env : Env) {w : Watched} {e : Event} (h : w.LateFirst) (hopen : w.closed = false)
    (he : ¬w.TakesLate env e) : ∀ piece ∈ (w.writes env e).2, piece.late = false := by
  unfold Watched.writes
  cases ha : answers env w.playback e with
  | none => nofun
  | some accepts =>
    have hcloses : e.closes = false := not_closes_of_answers env ha
    have hwaiting : w.waiting env e = w.queue ++ (queues env w.playback e).map (⟨false, ·⟩) := by
      rw [Watched.waiting, hcloses, hopen]
      rfl
    -- it is enough that all that waits is not late
    have hpieces (hall : ∀ f ∈ w.waiting env e, f.late = false) :
        ∀ piece ∈ (writeFrames (w.waiting env e) accepts).2, piece.late = false := by
      intro piece hpiece
      have hmem := (writeFrames_sublist (w.waiting env e) accepts).2.subset (List.mem_map_of_mem hpiece)
      obtain ⟨f, hf, hlate⟩ := List.mem_map.1 hmem
      rw [← hlate]
      exact hall f hf
    have hnew : ∀ f ∈ (queues env w.playback e).map (QueuedFrame.mk false), f.late = false := by
      intro f hf
      obtain ⟨pcm, -, rfl⟩ := List.mem_map.1 hf
      rfl
    cases hq : w.queue with
    | nil =>
      refine hpieces ?_
      intro f hf
      rw [hwaiting, hq, List.nil_append] at hf
      exact hnew f hf
    | cons head rest =>
      cases hlate : head.late with
      | true =>
        have hblocked : ¬(0 < accepts.headD 0 ∧ head.data ≠ []) :=
          fun hc => he ⟨accepts, head, rest, ha, hc.1, hq, hlate, hc.2⟩
        dsimp only
        rw [hwaiting, hq, List.cons_append, writeFrames_blocked hblocked]
        nofun
      | false =>
        refine hpieces ?_
        intro f hf
        rw [hwaiting] at hf
        rcases List.mem_append.1 hf with hf | hf
        · have hsorted := h.sorted
          rw [hq, List.map_cons, List.pairwise_cons] at hsorted
          rw [hq] at hf
          rcases List.mem_cons.1 hf with rfl | hf
          · exact hlate
          · by_contra hc
            have hf' : f.late = true := by simpa using hc
            have hhead := hsorted.1 f.late (List.mem_map_of_mem hf) hf'
            rw [hlate] at hhead
            cases hhead
        · exact hnew f hf

/-- A step that takes no late frame leaves the late frames first in the queue. -/
theorem lateFirst_step (env : Env) {w : Watched} {e : Event} (h : w.LateFirst) (he : ¬w.TakesLate env e) :
    (w.step env e).LateFirst := by
  have hdevice := (step_spec env w.playback e).audioDevice
  cases hcloses : e.closes with
  | true =>
    have hopens : e.opens = false := by
      cases e with
      | stop => rfl
      | handleStreamEnd reason => rfl
      | _ => cases hcloses
    have hwrites : w.writes env e = ([], []) := by
      rw [Watched.writes, answers_of_closes env w.playback hcloses]
      simp [Watched.waiting, hcloses]
    refine ⟨?_, ?_, fun _ => ⟨?_, ?_⟩⟩
    · simpa [Watched.step, Watched.NoLateWrite, hwrites] using h.noLateWrite
    · simp [Watched.step, hwrites]
    · simp [Watched.step, hdevice hopens, hcloses]
    · simp [Watched.step, hwrites]
  | false =>
    have hwaiting : w.waiting env e = w.queue ++ (queues env w.playback e).map (⟨w.closed, ·⟩) := by
      rw [Watched.waiting, hcloses]
      rfl
    cases hclosed : w.closed with
    | true =>
      obtain ⟨hnone, hlate⟩ := h.closed hclosed
      have hwrites : w.writes env e = (w.waiting env e, []) := by
        rw [Watched.writes, answers_of_no_device env hnone]
      have hall : ∀ f ∈ w.waiting env e, f.late = true := by
        intro f hf
        rw [hwaiting] at hf
        rcases List.mem_append.1 hf with hf | hf
        · exact hlate f hf
        · obtain ⟨pcm, -, rfl⟩ := List.mem_map.1 hf
          exact hclosed
      refine ⟨?_, ?_, ?_⟩
      · simpa [Watched.step, Watched.NoLateWrite, hwrites] using h.noLateWrite
      · simp only [Watched.step, hwrites]
        refine List.pairwise_map.2 (List.pairwise_of_forall_mem_list fun f hf g _ _ => hall f hf)
      · intro hclosed'
        simp only [Watched.step, hcloses, hclosed, Bool.false_or, Bool.true_and, Bool.not_eq_true'] at hclosed'
        refine ⟨?_, ?_⟩
        · simp [Watched.step, hdevice hclosed', hnone]
        · simpa [Watched.step, hwrites] using hall
    | false =>
      have hsorted : ((w.waiting env e).map (·.late)).Pairwise fun f g => g = true → f = true := by
        rw [hwaiting, List.map_append, List.pairwise_append]
        refine ⟨h.sorted, ?_, ?_⟩
        · refine List.pairwise_map.2 (List.pairwise_of_forall_mem_list fun f _ g hg hlate => ?_)
          obtain ⟨pcm, -, rfl⟩ := List.mem_map.1 hg
          exact absurd (hclosed.symm.trans hlate) (by decide)
        · intro f _ g hg hlate
          obtain ⟨frame, hframe, rfl⟩ := List.mem_map.1 hg
          obtain ⟨pcm, -, rfl⟩ := List.mem_map.1 hframe
          exact absurd (hclosed.symm.trans hlate) (by decide)
      refine ⟨?_, ?_, ?_⟩
      · intro piece hpiece
        rcases List.mem_append.1 hpiece with hbefore | hnow
        · exact h.noLateWrite piece hbefore
        · exact not_late_of_writes env h hclosed he piece hnow
      · refine hsorted.sublist ?_
        simp only [Watched.step, Watched.writes]
        split
        · exact (writeFrames_sublist _ _).1
        · exact List.Sublist.refl _
      · intro hclosed'
        simp [Watched.step, hcloses, hclosed] at hclosed'

/-- A step that takes one writes it. -/
theorem not_noLateWrite_step (env : Env) {w : Watched} {e : Event} (he : w.TakesLate env e) :
    ¬(w.step env e).NoLateWrite := by
  obtain ⟨accepts, frame, rest, ha, hpos, hq, hlate, hne⟩ := he
  have hcloses : e.closes = false := not_closes_of_answers env ha
  have hwrites : w.writes env e =
      writeFrames (frame :: (rest ++ (queues env w.playback e).map (⟨w.closed, ·⟩))) accepts := by
    simp only [Watched.writes, ha, Watched.waiting, hcloses, hq]
    rfl
  obtain ⟨piece, hpiece, hsame⟩ := writeFrames_head (rest ++ (queues env w.playback e).map (⟨w.closed, ·⟩)) hpos hne
  intro hnone
  have hmem : piece ∈ (w.step env e).accepted := by
    simp only [Watched.step, hwrites]
    exact List.mem_append_right _ hpiece
  have hfalse := hnone piece hmem
  rw [hsame, hlate] at hfalse
  cases hfalse

/-- No byte of a late frame is written in any state of a run exactly when in no step of the run the device takes bytes
while a late frame heads the queue. -/
theorem no_late_write_iff (env : Env) (opened : Bool) (es : List Event) :
    Always (Watched.step env) Watched.NoLateWrite { playback := create opened } es ↔
      EveryStep (Watched.step env) (fun w e => ¬w.TakesLate env e) { playback := create opened } es := by
  refine always_iff_everyStep (fun _ => True) Watched.LateFirst (fun _ h => h.noLateWrite) ?_ ?_ (fun _ _ => trivial) ?_
  · exact fun w e _ h he => lateFirst_step env h he
  · exact fun w e _ _ he => not_noLateWrite_step env (not_not.1 he)
  · exact ⟨nofun, List.Pairwise.nil, nofun⟩

/-- A barge-in stops the playback, one more frame of the old answer comes, and the next answer begins: its first write
takes the old frame too. -/
theorem no_late_write_false :
    ¬∀ (env : Env) (opened : Bool) (es : List Event),
      Always (Watched.step env) Watched.NoLateWrite { playback := create opened } es := by
  intro h
  have hnone := h .silence true
    [.stop, .handlePcmFrame 0 [1, 2] [], .preparePlayback true [4800], .handlePcmFrame 20 [3, 4] [2, 2]] _
    (List.prefix_refl _)
  have hlate := hnone ⟨true, [1, 2]⟩ (by decide)
  cases hlate

end PairionAudioPlayback

end PairionClient
