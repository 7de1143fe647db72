import Mathlib.Data.List.Forall2
import Mathlib.Data.List.Perm.Basic
import PairionClient.Lemmas.Startup
import PairionClient.Lib.Run

/-!
# The attempts of a start

A start loads the models up to four times, a second apart, whatever else happens in between. The starts of a run are numbered,
and each retry keeps the number of its start: every start is a pipeline, waits for its retry, or was given up, its retry has as
many attempts left as it has not failed yet, and what was given up has failed four times.
-/

namespace PairionClient

open Transition

namespace Startup

variable (M : ModelStore) {s : Startup} {e : Event}

/-- The event starts the pipeline: the microphone is allowed and the models are ready, one of them just now. -/
def Starts (s : Startup) : Event → Bool
  | .permission granted _ => s.permissionPending && granted && s.modelsReady
  | .sessionOpened _ => s.micPermissionGranted && decide (s.downloader.missing M = [])
  | .replyFinished id result writable _ => s.micPermissionGranted && s.downloader.completes M id result writable
  | _ => false

/-- The `retryCount` with which the event loads the models, if it does. -/
def attempt (s : Startup) (e : Event) : Option Nat :=
  match e with
  | .retryTimer i _ => s.retries[i]?
  | _ => if Starts M s e then some 3 else none

def Event.loads : Event → Bool
  | .permission _ outcome | .sessionOpened outcome | .replyFinished _ _ _ outcome | .retryTimer _ outcome => outcome.loads
  | .replyProgress _ _ _ => false

/-- What waits on beside the retry that the event fires. -/
def Event.others {α : Type} (xs : List α) : Event → List α
  | .retryTimer i _ => xs.eraseIdx i
  | _ => xs

/-! ## What an attempt leaves -/

/-- The retries that an attempt adds. -/
def again (retryCount : Nat) (loads : Bool) : List Nat := if loads || retryCount = 0 then [] else [retryCount - 1]

/-- An attempt that fails adds a retry with one attempt less, if it was not the last. -/
theorem retries_initAudioPipeline (retryCount : Nat) (outcome : InitOutcome) (s : Startup) :
    (s.initAudioPipeline retryCount outcome).retries = s.retries ++ again retryCount outcome.loads := by
  unfold initAudioPipeline
  cases outcome with
  | loadFailed what =>
    dsimp only
    split
    · rename_i hpos
      simp [again, InitOutcome.loads, hpos.ne', appendLog]
    · rename_i hzero
      simp [again, InitOutcome.loads, Nat.eq_zero_of_not_pos hzero, appendLog, setPipelineHealth]
  | loaded inferenceStarts encoderStarts =>
    have hnone : again retryCount (InitOutcome.loaded inferenceStarts encoderStarts).loads = [] := rfl
    rw [hnone, List.append_nil]
    dsimp only
    repeat' split
    all_goals rfl

/-- A try to start is an attempt with three retries, if the microphone is allowed and the models are ready. -/
theorem retries_tryStartPipeline (outcome : InitOutcome) (s : Startup) :
    (s.tryStartPipeline outcome).retries =
      s.retries ++ if s.micPermissionGranted && s.modelsReady then again 3 outcome.loads else [] := by
  unfold tryStartPipeline
  split
  · rename_i h
    simp [retries_initAudioPipeline, h]
  · rename_i h
    cases hm : s.micPermissionGranted <;> cases hr : s.modelsReady <;> simp_all

/-- Each "ready" among the signals of the downloader is a try to start. -/
theorem retries_foldl_onDownloaderSignal (outcome : InitOutcome) (signals : List DownloaderSignal) (s : Startup)
    (hone : signals.count .allModelsReady ≤ 1) :
    (signals.foldl (onDownloaderSignal outcome) s).retries =
      s.retries ++ if s.micPermissionGranted && signals.count .allModelsReady = 1 then again 3 outcome.loads else [] := by
  induction signals generalizing s with
  | nil => simp
  | cons signal signals ih =>
    rw [List.foldl_cons]
    cases signal with
    | downloadProgress percent =>
      rw [ih _ (by simpa using hone)]
      simp [onDownloaderSignal]
    | downloadError reason =>
      rw [ih _ (by simpa using hone)]
      simp [onDownloaderSignal, appendLog]
    | allModelsReady =>
      rw [List.count_cons_self] at hone
      have hnone : signals.count .allModelsReady = 0 := by omega
      have hmic : (s.onDownloaderSignal outcome .allModelsReady).micPermissionGranted = s.micPermissionGranted :=
        micPermissionGranted_tryStartPipeline outcome _
      rw [ih _ (by omega), hmic, onDownloaderSignal, retries_tryStartPipeline]
      simp [hnone, setPipelineHealth]

/-- What a step makes of the retries. -/
theorem retries_step (s : Startup) (e : Event) :
    (step M s e).retries =
      e.others s.retries ++ ((attempt M s e).map fun retryCount => again retryCount e.loads).getD [] := by
  cases e with
  | permission granted outcome =>
    rw [step]
    cases hp : s.permissionPending with
    | false => simp [Event.others, attempt, Starts, hp]
    | true =>
      cases granted with
      | false => simp [handlePermission, appendLog, setPipelineHealth, Event.others, attempt, Starts]
      | true =>
        simp only [handlePermission, if_true, retries_tryStartPipeline]
        cases hr : s.modelsReady <;> simp [appendLog, Event.others, attempt, Starts, hp, hr, Event.loads]
  | sessionOpened outcome =>
    have hone : (s.downloader.checkAndDownload M).2.count .allModelsReady ≤ 1 := by
      rw [ModelDownloader.ready_checkAndDownload]
      split <;> omega
    rw [step, afterDownloader, retries_foldl_onDownloaderSignal _ _ _ hone, ModelDownloader.ready_checkAndDownload]
    by_cases hmissing : s.downloader.missing M = [] <;> cases hm : s.micPermissionGranted <;>
      simp [setPipelineHealth, Event.others, attempt, Starts, hm, hmissing, Event.loads]
  | replyProgress id received total =>
    have hzero := ModelDownloader.ready_replyProgress M s.downloader id received total
    rw [step, afterDownloader, retries_foldl_onDownloaderSignal _ _ _ (by omega), hzero]
    simp [Event.others, attempt, Starts]
  | replyFinished id result writable outcome =>
    have hready := ModelDownloader.ready_replyFinished M s.downloader id result writable
    have hone : (s.downloader.step M (.replyFinished id result writable)).2.count .allModelsReady ≤ 1 := by
      rw [hready]
      split <;> omega
    rw [step, afterDownloader, retries_foldl_onDownloaderSignal _ _ _ hone, hready]
    cases hc : s.downloader.completes M id result writable <;> cases hm : s.micPermissionGranted <;>
      simp [Event.others, attempt, Starts, hm, hc, Event.loads]
  | retryTimer i outcome =>
    rw [step]
    cases hi : s.retries[i]? with
    | none => simp [Event.others, attempt, hi, List.eraseIdx_of_length_le (List.getElem?_eq_none_iff.1 hi)]
    | some retryCount => simp [retries_initAudioPipeline, Event.others, attempt, hi, Event.loads]

/-- An attempt that loads builds a pipeline. -/
theorem builds_eq (s : Startup) (e : Event) : Builds M s e = ((attempt M s e).isSome && e.loads) := by
  cases e with
  | permission granted outcome =>
    cases h : Starts M s (.permission granted outcome) <;> simp [attempt, h, Builds, Event.loads] <;> simp_all [Starts]
  | sessionOpened outcome =>
    cases h : Starts M s (.sessionOpened outcome) <;> simp [attempt, h, Builds, Event.loads] <;> simp_all [Starts]
  | replyProgress id received total => rfl
  | replyFinished id result writable outcome =>
    cases h : Starts M s (.replyFinished id result writable outcome) <;>
      simp [attempt, h, Builds, Event.loads] <;> simp_all [Starts]
  | retryTimer i outcome => by_cases hi : i < s.retries.length <;> simp [attempt, Builds, Event.loads, hi]

/-- A step that attempts nothing leaves the retries and the pipelines. -/
theorem step_of_none (h : attempt M s e = none) :
    (step M s e).retries = s.retries ∧ (step M s e).pipelines.length = s.pipelines.length := by
  have hothers : e.others s.retries = s.retries := by
    cases e with
    | retryTimer i outcome => exact List.eraseIdx_of_length_le (List.getElem?_eq_none_iff.1 h)
    | _ => rfl
  constructor
  · rw [retries_step, h, hothers]
    exact List.append_nil _
  · rw [pipelines_step, builds_eq, h]
    simp

/-- An attempt builds a pipeline, adds a retry with one attempt less, or was the last one. -/
theorem step_of_attempt {retryCount : Nat} (h : attempt M s e = some retryCount) :
    (step M s e).pipelines.length = s.pipelines.length + (if e.loads then 1 else 0) ∧
      (step M s e).retries = e.others s.retries ++ again retryCount e.loads := by
  constructor
  · rw [pipelines_step, builds_eq, h, List.length_append]
    cases e.loads <;> rfl
  · rw [retries_step, h]
    rfl

/-! ## What the health line says of it -/

/-- The health line says that the models have failed. -/
def SaysFailed (s : Startup) : Prop := s.connState.pipelineHealth = "models_failed"

/-- An attempt makes the health line say so only if it was the last and fails. -/
theorem saysFailed_initAudioPipeline {retryCount : Nat} {outcome : InitOutcome}
    (h : SaysFailed (s.initAudioPipeline retryCount outcome)) : SaysFailed s ∨ (retryCount = 0 ∧ outcome.loads = false) := by
  cases outcome with
  | loadFailed what =>
    by_cases hpos : retryCount > 0
    · left
      simpa [SaysFailed, initAudioPipeline, hpos, appendLog] using h
    · exact Or.inr ⟨Nat.eq_zero_of_not_pos hpos, rfl⟩
  | loaded inferenceStarts encoderStarts =>
    revert h
    unfold SaysFailed initAudioPipeline
    dsimp only
    repeat' split
    all_goals simp [threadFailed, appendLog, setPipelineHealth]

/-- A first attempt never does. -/
theorem saysFailed_tryStartPipeline {outcome : InitOutcome} (h : SaysFailed (s.tryStartPipeline outcome)) : SaysFailed s := by
  unfold tryStartPipeline at h
  split at h
  · exact (saysFailed_initAudioPipeline h).resolve_right (by simp)
  · exact h

/-- No signal of the downloader does. -/
theorem saysFailed_foldl_onDownloaderSignal {outcome : InitOutcome} {signals : List DownloaderSignal}
    (h : SaysFailed (signals.foldl (onDownloaderSignal outcome) s)) : SaysFailed s := by
  induction signals generalizing s with
  | nil => exact h
  | cons signal signals ih =>
    have hsignal : SaysFailed (s.onDownloaderSignal outcome signal) := ih h
    cases signal with
    | downloadProgress percent => exact hsignal
    | downloadError reason => exact hsignal
    | allModelsReady =>
      have hinitializing := saysFailed_tryStartPipeline hsignal
      simp [SaysFailed, setPipelineHealth] at hinitializing

/-- The health line comes to say so only where the last attempt of a start fails. -/
theorem saysFailed_step (h : SaysFailed (step M s e)) : SaysFailed s ∨ (attempt M s e = some 0 ∧ e.loads = false) := by
  cases e with
  | permission granted outcome =>
    left
    rw [step] at h
    split at h
    · cases granted with
      | false => simp [handlePermission, SaysFailed, setPipelineHealth] at h
      | true =>
        simp only [handlePermission, if_true] at h
        simpa [SaysFailed, appendLog] using saysFailed_tryStartPipeline h
    · exact h
  | sessionOpened outcome =>
    have hloading := saysFailed_foldl_onDownloaderSignal h
    simp [SaysFailed, setPipelineHealth] at hloading
  | replyProgress id received total =>
    have hbefore := saysFailed_foldl_onDownloaderSignal h
    exact Or.inl hbefore
  | replyFinished id result writable outcome =>
    have hbefore := saysFailed_foldl_onDownloaderSignal h
    exact Or.inl hbefore
  | retryTimer i outcome =>
    rw [step] at h
    cases hi : s.retries[i]? with
    | none =>
      rw [hi] at h
      exact Or.inl h
    | some retryCount =>
      rw [hi] at h
      refine (saysFailed_initAudioPipeline h).imp id ?_
      rintro ⟨rfl, hloads⟩
      exact ⟨hi, hloads⟩

/-! ## Numbered starts -/

/-- The start-up, with the number of each start that waits for its retry. An attempt is kept with the number of its start,
and with whether it brought a pipeline. -/
structure Numbered where
  startup : Startup
  starts : Nat := 0
  attempts : List (Nat × Bool) := []
  waiting : List Nat := []
  givenUp : List Nat := []

namespace Numbered

/-- The starts that have become a pipeline. -/
def built (n : Numbered) : List Nat := (n.attempts.filter fun x => x.2).map Prod.fst

def failures (n : Numbered) (start : Nat) : Nat := n.attempts.count (start, false)

/-- How often a start has loaded the models. -/
def loads (n : Numbered) (start : Nat) : Nat := n.attempts.countP fun x => x.1 = start

/-- The start that the event belongs to: a new one, or that of the retry which fires. -/
def start (n : Numbered) (e : Event) : Option Nat :=
  match e with
  | .retryTimer i _ => n.waiting[i]?
  | _ => if Starts M n.startup e then some n.starts else none

/-- The start has become a pipeline if there is one more, it waits if there is one more retry than the others, and else it
was given up. -/
def step (n : Numbered) (e : Event) : Numbered :=
  let s := Startup.step M n.startup e
  match n.start M e with
  | none => { n with startup := s }
  | some start =>
    let built : Bool := n.startup.pipelines.length < s.pipelines.length
    let waits : Bool := (e.others n.waiting).length < s.retries.length
    { startup := s
      starts := if Starts M n.startup e then n.starts + 1 else n.starts
      attempts := n.attempts ++ [(start, built)]
      waiting := if waits then e.others n.waiting ++ [start] else e.others n.waiting
      givenUp := if built || waits then n.givenUp else n.givenUp ++ [start] }

/-- Each start is in one place, and its failures and the attempts it has left make three until it is given up. -/
structure Accounted (n : Numbered) : Prop where
  once : (n.built ++ n.waiting ++ n.givenUp).Perm (List.range n.starts)
  pipelines : n.built.length = n.startup.pipelines.length
  retries : List.Forall₂ (fun start retryCount => n.failures start + retryCount = 3) n.waiting n.startup.retries
  built : ∀ start ∈ n.built, n.failures start ≤ 3
  givenUp : ∀ start ∈ n.givenUp, n.failures start = 4
  unborn : ∀ start, n.starts ≤ start → n.failures start = 0
  health : SaysFailed n.startup → n.givenUp ≠ []

variable {M} {n : Numbered}

/-! ## Lists beside each other -/

/-- Lists beside each other stay so when both lose the element at one place. -/
theorem forall₂_eraseIdx {R : Nat → Nat → Prop} {xs ys : List Nat} (h : List.Forall₂ R xs ys) (i : Nat) :
    List.Forall₂ R (xs.eraseIdx i) (ys.eraseIdx i) := by
  induction h generalizing i with
  | nil => exact .nil
  | cons hxy h ih =>
    cases i with
    | zero => exact h
    | succ i => exact .cons hxy (ih i)

/-- What is beside the elements of a list may meet another relation for these elements. -/
theorem forall₂_imp_of_mem {R S : Nat → Nat → Prop} {xs ys : List Nat} (h : List.Forall₂ R xs ys)
    (hRS : ∀ x ∈ xs, ∀ y, R x y → S x y) : List.Forall₂ S xs ys := by
  induction h with
  | nil => exact .nil
  | cons hxy h ih => exact .cons (hRS _ List.mem_cons_self _ hxy) (ih fun x hx => hRS x (List.mem_cons_of_mem _ hx))

/-! ## What an attempt adds -/

/-- What is known of the start that is attempted: it was not in any other place, and it has failed as often as attempts
are gone. -/
structure Attempting (n : Numbered) (e : Event) (start retryCount : Nat) : Prop where
  isSome : attempt M n.startup e = some retryCount
  once : (n.built ++ (start :: e.others n.waiting) ++ n.givenUp).Perm
    (List.range (if Starts M n.startup e then n.starts + 1 else n.starts))
  retries : List.Forall₂ (fun start retryCount => n.failures start + retryCount = 3) (e.others n.waiting)
    (e.others n.startup.retries)
  failures : n.failures start + retryCount = 3

/-- A start is new, or it is that of the retry which fires. -/
theorem Accounted.attempting (h : Accounted n) {e : Event} {start : Nat} (hstart : n.start M e = some start) :
    ∃ retryCount, Attempting (M := M) n e start retryCount := by
  cases e with
  | retryTimer i outcome =>
    obtain ⟨hi, hget⟩ := List.getElem?_eq_some_iff.1 hstart
    have hi' : i < n.startup.retries.length := h.retries.length_eq ▸ hi
    have hfailures := h.retries.get hi hi'
    simp only [List.get_eq_getElem, hget] at hfailures
    have hfired : (start :: n.waiting.eraseIdx i).Perm n.waiting := by
      rw [← hget]
      exact List.getElem_cons_eraseIdx_perm hi
    exact ⟨n.startup.retries[i], List.getElem?_eq_getElem hi',
      ((hfired.append_left n.built).append_right n.givenUp).trans h.once, forall₂_eraseIdx h.retries i, hfailures⟩
  | _ =>
    simp only [Numbered.start] at hstart
    split at hstart
    · rename_i hstarts
      obtain rfl := Option.some.inj hstart
      have hisSome : (if Starts M n.startup _ then some 3 else none) = some 3 := if_pos hstarts
      refine ⟨3, hisSome, ?_, h.retries, ?_⟩
      · rw [if_pos hstarts, List.range_succ]
        have hmiddle : (n.built ++ (n.starts :: n.waiting) ++ n.givenUp).Perm (n.starts :: (n.built ++ n.waiting ++ n.givenUp)) := by
          rw [List.append_assoc, List.append_assoc, List.cons_append]
          exact List.perm_middle
        exact hmiddle.trans ((h.once.cons n.starts).trans (List.perm_append_singleton _ _).symm)
      · rw [h.unborn n.starts (Nat.le_refl _)]
    · cases hstart

/-- What is not the start of any event is no attempt. -/
theorem Accounted.attempt_eq_none (h : Accounted n) {e : Event} (hstart : n.start M e = none) :
    attempt M n.startup e = none := by
  cases e with
  | retryTimer i outcome =>
    have hi := List.getElem?_eq_none_iff.1 hstart
    exact List.getElem?_eq_none_iff.2 (h.retries.length_eq ▸ hi)
  | _ =>
    simp only [Numbered.start] at hstart
    split at hstart
    · cases hstart
    · rename_i hstarts
      simp only [attempt]
      exact if_neg hstarts

theorem failures_concat (attempts : List (Nat × Bool)) (start other : Nat) (built : Bool) :
    (attempts ++ [(start, built)]).count (other, false) =
      attempts.count (other, false) + if other = start ∧ built = false then 1 else 0 := by
  rw [List.count_append, List.count_singleton]
  congr 1
  by_cases hother : other = start
  · subst hother
    cases built <;> simp
  · have hne : ((start, built) == (other, false)) = false := by
      simpa using fun heq => absurd heq.symm hother
    simp [hne, hother]

/-- A start that is attempted is in no other place. -/
theorem Attempting.ne {e : Event} {start retryCount : Nat} (h : Attempting (M := M) n e start retryCount) :
    start ∉ n.built ∧ start ∉ e.others n.waiting ∧ start ∉ n.givenUp := by
  have hnodup := h.once.nodup_iff.2 List.nodup_range
  have hmiddle : (n.built ++ (start :: e.others n.waiting) ++ n.givenUp).Perm
      (start :: (n.built ++ e.others n.waiting ++ n.givenUp)) := by
    rw [List.append_assoc, List.append_assoc, List.cons_append]
    exact List.perm_middle
  have hnot := (List.nodup_cons.1 (hmiddle.nodup_iff.1 hnodup)).1
  simp only [List.mem_append, not_or] at hnot
  exact ⟨hnot.1.1, hnot.1.2, hnot.2⟩

/-- What the step of an attempt adds to each list. -/
theorem Attempting.step_eq {e : Event} {start retryCount : Nat} (h : Attempting (M := M) n e start retryCount)
    (hstart : n.start M e = some start) :
    n.step M e =
      { startup := Startup.step M n.startup e
        starts := if Starts M n.startup e then n.starts + 1 else n.starts
        attempts := n.attempts ++ [(start, e.loads)]
        waiting := e.others n.waiting ++ (again retryCount e.loads).map fun _ => start
        givenUp := n.givenUp ++ if e.loads || 0 < retryCount then [] else [start] } := by
  obtain ⟨hpipelines, hretries⟩ := step_of_attempt M h.isSome
  have hlength := h.retries.length_eq
  simp only [Numbered.step, hstart, hpipelines, hretries, List.length_append, hlength]
  cases e.loads <;> cases retryCount <;> simp [again]

variable {e : Event} {start retryCount : Nat}

theorem built_concat (attempts : List (Nat × Bool)) (start : Nat) (loads : Bool) :
    ((attempts ++ [(start, loads)]).filter fun x => x.2).map Prod.fst =
      (attempts.filter fun x => x.2).map Prod.fst ++ if loads then [start] else [] := by
  rw [List.filter_append, List.map_append]
  cases loads <;> rfl

/-- Only the start that is attempted fails, and only if the models do not load. -/
theorem Attempting.failures_step (h : Attempting (M := M) n e start retryCount) (hstart : n.start M e = some start)
    (other : Nat) :
    (n.step M e).failures other = n.failures other + if other = start ∧ e.loads = false then 1 else 0 := by
  rw [h.step_eq hstart]
  exact failures_concat n.attempts start other e.loads

/-- The place that the attempt finds for its start. -/
theorem Attempting.once_step (h : Attempting (M := M) n e start retryCount) (hstart : n.start M e = some start) :
    ((n.step M e).built ++ (n.step M e).waiting ++ (n.step M e).givenUp).Perm (List.range (n.step M e).starts) := by
  refine List.Perm.trans ?_ (h.once.trans (by rw [h.step_eq hstart]))
  rw [h.step_eq hstart, built, built_concat]
  refine List.perm_iff_count.2 fun other => ?_
  cases e.loads <;> cases retryCount <;> simp [again, built, List.count_cons] <;> omega

/-- The other starts fail no more often. -/
theorem Attempting.failures_other (h : Attempting (M := M) n e start retryCount) (hstart : n.start M e = some start)
    {other : Nat} (hne : other ≠ start) : (n.step M e).failures other = n.failures other := by
  rw [h.failures_step hstart, if_neg fun hother => hne hother.1, Nat.add_zero]

/-- The start itself has failed once more, unless the models load. -/
theorem Attempting.failures_self (h : Attempting (M := M) n e start retryCount) (hstart : n.start M e = some start) :
    (n.step M e).failures start = n.failures start + if e.loads = false then 1 else 0 := by
  rw [h.failures_step hstart]
  simp only [true_and]

/-- The retry that is added has one attempt less, and its start has failed once more. -/
theorem Attempting.retries_step (h : Attempting (M := M) n e start retryCount) (hstart : n.start M e = some start) :
    List.Forall₂ (fun start retryCount => (n.step M e).failures start + retryCount = 3) (n.step M e).waiting
      (n.step M e).startup.retries := by
  have hothers : List.Forall₂ (fun start retryCount => (n.step M e).failures start + retryCount = 3)
      (e.others n.waiting) (e.others n.startup.retries) :=
    forall₂_imp_of_mem h.retries fun other hmem _ hleft => by
      rw [h.failures_other hstart fun heq => h.ne.2.1 (heq ▸ hmem)]
      exact hleft
  have hnew : List.Forall₂ (fun start retryCount => (n.step M e).failures start + retryCount = 3)
      ((again retryCount e.loads).map fun _ => start) (again retryCount e.loads) := by
    unfold again
    split
    · exact .nil
    · rename_i hagain
      simp only [Bool.or_eq_true, decide_eq_true_eq, not_or, Bool.not_eq_true] at hagain
      have hfailures := h.failures
      refine .cons ?_ .nil
      rw [h.failures_self hstart, if_pos hagain.1]
      omega
  have hboth : List.Forall₂ (fun start retryCount => (n.step M e).failures start + retryCount = 3)
      (e.others n.waiting ++ (again retryCount e.loads).map fun _ => start)
      (e.others n.startup.retries ++ again retryCount e.loads) := List.rel_append hothers hnew
  rw [← (step_of_attempt M h.isSome).2] at hboth
  rw [h.step_eq hstart] at hboth ⊢
  exact hboth

/-- Built are those that were, and the start that is attempted if the models load. -/
theorem Attempting.of_mem_built (h : Attempting (M := M) n e start retryCount) (hstart : n.start M e = some start)
    {other : Nat} (hmem : other ∈ (n.step M e).built) : other ∈ n.built ∨ (other = start ∧ e.loads = true) := by
  rw [h.step_eq hstart, built, built_concat] at hmem
  rcases List.mem_append.1 hmem with hbefore | hnew
  · exact Or.inl hbefore
  · split at hnew
    · rename_i hloads
      exact Or.inr ⟨List.mem_singleton.1 hnew, hloads⟩
    · cases hnew

/-- Given up are those that were, and the start that is attempted if its last attempt fails. -/
theorem Attempting.of_mem_givenUp (h : Attempting (M := M) n e start retryCount) (hstart : n.start M e = some start)
    {other : Nat} (hmem : other ∈ (n.step M e).givenUp) :
    other ∈ n.givenUp ∨ (other = start ∧ e.loads = false ∧ retryCount = 0) := by
  rw [h.step_eq hstart] at hmem
  rcases List.mem_append.1 hmem with hbefore | hnew
  · exact Or.inl hbefore
  · split at hnew
    · cases hnew
    · rename_i hlast
      simp only [Bool.or_eq_true, decide_eq_true_eq, not_or, Bool.not_eq_true, Nat.not_lt, Nat.le_zero] at hlast
      exact Or.inr ⟨List.mem_singleton.1 hnew, hlast⟩

/-! ## Steps and runs -/

/-- A step without an attempt leaves every start in its place. -/
theorem accounted_of_none (h : Accounted n) (hstart : n.start M e = none) : Accounted (n.step M e) := by
  have hnone := h.attempt_eq_none hstart
  obtain ⟨hretries, hpipelines⟩ := step_of_none M hnone
  simp only [Numbered.step, hstart]
  refine ⟨h.once, h.pipelines.trans hpipelines.symm, ?_, h.built, h.givenUp, h.unborn, fun hfailed => ?_⟩
  · rw [hretries]
    exact h.retries
  · refine h.health ((saysFailed_step M hfailed).resolve_right ?_)
    rintro ⟨hlast, -⟩
    rw [hnone] at hlast
    cases hlast

/-- An attempt leaves each start in one place. -/
theorem accounted_of_some (h : Accounted n) (hattempting : Attempting (M := M) n e start retryCount)
    (hstart : n.start M e = some start) : Accounted (n.step M e) := by
  have hpipelines := (step_of_attempt M hattempting.isSome).1
  obtain ⟨hnotBuilt, -, hnotGivenUp⟩ := hattempting.ne
  have hstep := hattempting.step_eq hstart
  have hfailures := hattempting.failures
  constructor
  case once => exact hattempting.once_step hstart
  case pipelines =>
    rw [hstep, built, built_concat, List.length_append, hpipelines, ← h.pipelines]
    cases e.loads <;> rfl
  case retries => exact hattempting.retries_step hstart
  case built =>
    intro other hmem
    rcases hattempting.of_mem_built hstart hmem with hbefore | ⟨rfl, hloads⟩
    · rw [hattempting.failures_other hstart fun heq => hnotBuilt (heq ▸ hbefore)]
      exact h.built other hbefore
    · rw [hattempting.failures_self hstart, hloads]
      simp only [reduceCtorEq, if_false]
      omega
  case givenUp =>
    intro other hmem
    rcases hattempting.of_mem_givenUp hstart hmem with hbefore | ⟨rfl, hfails, hlast⟩
    · rw [hattempting.failures_other hstart fun heq => hnotGivenUp (heq ▸ hbefore)]
      exact h.givenUp other hbefore
    · rw [hattempting.failures_self hstart, if_pos hfails]
      omega
  case unborn =>
    intro other hle
    have hlt : start < (n.step M e).starts := by
      rw [hstep]
      exact List.mem_range.1 (hattempting.once.mem_iff.1 (by simp))
    have hle' : n.starts ≤ other := by
      refine Nat.le_trans ?_ hle
      rw [hstep]
      dsimp only
      split <;> omega
    rw [hattempting.failures_other hstart (by omega)]
    exact h.unborn other hle'
  case health =>
    intro hfailed
    rw [hstep] at hfailed ⊢
    dsimp only at hfailed ⊢
    rcases saysFailed_step M hfailed with hbefore | ⟨hlast, hloads⟩
    · exact List.append_ne_nil_of_left_ne_nil (h.health hbefore) _
    · obtain rfl := Option.some.inj (hattempting.isSome.symm.trans hlast)
      rw [hloads]
      exact List.append_ne_nil_of_right_ne_nil _ (List.cons_ne_nil _ _)

/-- Every step leaves each start in one place. -/
theorem accounted_step (h : Accounted n) (e : Event) : Accounted (n.step M e) := by
  cases hstart : n.start M e with
  | none => exact accounted_of_none h hstart
  | some start =>
    obtain ⟨retryCount, hattempting⟩ := h.attempting hstart
    exact accounted_of_some h hattempting hstart

@[simp] theorem startup_step (n : Numbered) (e : Event) : (n.step M e).startup = Startup.step M n.startup e := by
  rw [Numbered.step]
  split <;> rfl

/-- The numbers change nothing of the startup. -/
theorem startup_run (n : Numbered) (es : List Event) :
    (run (Numbered.step M) n es).startup = run (Startup.step M) n.startup es := by
  induction es generalizing n with
  | nil => rfl
  | cons e es ih => rw [run_cons, run_cons, ih, startup_step]

/-- A start loads the models once for each failure, and once more if it has become a pipeline. -/
theorem loads_eq (n : Numbered) (start : Nat) : n.loads start = n.failures start + n.built.count start := by
  unfold loads failures built
  induction n.attempts with
  | nil => rfl
  | cons x attempts ih =>
    obtain ⟨other, loaded⟩ := x
    rw [List.countP_cons, ih]
    cases loaded <;> by_cases hother : other = start <;> simp [hother] <;> omega

/-- No start loads the models more than four times. -/
theorem Accounted.loads_le (h : Accounted n) (start : Nat) : n.loads start ≤ 4 := by
  have hnodup : (n.built ++ n.waiting ++ n.givenUp).Nodup := h.once.nodup_iff.2 List.nodup_range
  have hone : n.built.count start ≤ 1 :=
    List.nodup_iff_count_le_one.1 (List.nodup_append.1 (List.nodup_append.1 hnodup).1).1 start
  rw [loads_eq]
  by_cases hbuilt : start ∈ n.built
  · have hfailures := h.built start hbuilt
    omega
  · rw [List.count_eq_zero_of_not_mem hbuilt, Nat.add_zero]
    by_cases hgivenUp : start ∈ n.givenUp
    · exact Nat.le_of_eq (h.givenUp start hgivenUp)
    · by_cases hwaiting : start ∈ n.waiting
      · obtain ⟨i, hi, hget⟩ := List.getElem_of_mem hwaiting
        have hleft := h.retries.get hi (h.retries.length_eq ▸ hi)
        simp only [List.get_eq_getElem, hget] at hleft
        omega
      · have hunborn : start ∉ List.range n.starts := by
          rw [← h.once.mem_iff]
          simp [hbuilt, hgivenUp, hwaiting]
        rw [h.unborn start (by simpa using hunborn)]
        omega

end Numbered

/-- From the start of the program on, whatever happens in between: every start is in one place, a pipeline, a retry that
waits or a start given up; a retry has as many attempts left as its own start has not failed yet, which loads the models
four times at most and has failed four times if it was given up; and the health line says that the models have failed only
when a start was given up. -/
theorem starts_accounted (disk : String → Option Bytes) (es : List Event) :
    let n := run (Numbered.step M) { startup := { downloader := { disk := disk } } } es
    n.startup = run (step M) { downloader := { disk := disk } } es ∧
      (n.built ++ n.waiting ++ n.givenUp).Perm (List.range n.starts) ∧
      n.built.length = n.startup.pipelines.length ∧
      List.Forall₂ (fun start retryCount => n.failures start + retryCount = 3) n.waiting n.startup.retries ∧
      (∀ start, n.loads start ≤ 4) ∧ (∀ start ∈ n.givenUp, n.failures start = 4) ∧
      (SaysFailed n.startup → n.givenUp ≠ []) := by
  intro n
  have hlaunched : Numbered.Accounted { startup := { downloader := { disk := disk } } } :=
    { once := .nil
      pipelines := rfl
      retries := .nil
      built := fun _ hmem => absurd hmem List.not_mem_nil
      givenUp := fun _ hmem => absurd hmem List.not_mem_nil
      unborn := fun _ _ => rfl
      health := fun hfailed => by simp [SaysFailed] at hfailed }
  have h : Numbered.Accounted n := inv_run_of_step Numbered.Accounted (fun _ e h => Numbered.accounted_step h e) es hlaunched
  exact ⟨Numbered.startup_run _ es, h.once, h.pipelines, h.retries, h.loads_le, h.givenUp, h.health⟩

end Startup

end PairionClient
