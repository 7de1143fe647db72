import PairionClient.Lemmas.ModelDownloader
import PairionClient.Main.Startup

/-!
# What the start of the program builds

Each `allModelsReady` and each permission is a try to start the pipeline. Counting them gives the pipelines that a step adds.
-/

namespace PairionClient

namespace ModelDownloader

variable (M : ModelStore)

/-! ## When the downloader announces that the models are ready -/

/-- The models are announced once nothing is pending. -/
theorem ready_downloadNext (d : ModelDownloader) :
    (downloadNext d).2.count .allModelsReady = if d.pending = [] then 1 else 0 := by
  cases hp : d.pending with
  | nil => simp [downloadNext_nil hp]
  | cons entry rest => simp [downloadNext_cons hp]

/-- A check announces the models if it finds none missing, and then once. -/
theorem ready_checkAndDownload (d : ModelDownloader) :
    (checkAndDownload M d).2.count .allModelsReady = if missing M d = [] then 1 else 0 := by
  rw [checkAndDownload_eq, ready_downloadNext]

/-- A reply in flight ends with the bytes of the only pending entry. -/
def completes (d : ModelDownloader) (id : Nat) (result : Except String Bytes) (writable : Bool) : Bool :=
  (d.replyOf id).isSome && match d.pending, result with
    | [entry], .ok data => writable && decide (entry.sha256 ≠ "" ∧ M.sha256Hex data = entry.sha256)
    | _, _ => false

/-- What is written is what the verification reads. -/
theorem verifyFile_write (r : Reply) (entry : ModelEntry) (data : Bytes) (d : ModelDownloader) :
    verifyFile M (d.write M r entry data).disk (modelPath M entry.name) entry.sha256 =
      decide (entry.sha256 ≠ "" ∧ M.sha256Hex data = entry.sha256) := by
  by_cases he : entry.sha256 = ""
  · simp [verifyFile, he]
  · simp [verifyFile, he, write]

/-- A reply announces the models if it completes them, and then once. -/
theorem ready_replyFinished (d : ModelDownloader) (id : Nat) (result : Except String Bytes) (writable : Bool) :
    (step M d (.replyFinished id result writable)).2.count .allModelsReady =
      if d.completes M id result writable then 1 else 0 := by
  cases hr : d.replyOf id with
  | none => simp [step, hr, completes]
  | some r =>
    have hp' : (d.forget id).pending = d.pending := rfl
    simp only [step, hr]
    cases hp : d.pending with
    | nil =>
      rw [hp] at hp'
      simp [onDownloadFinished_nil M r result writable hp', completes, hp]
    | cons entry rest =>
      rw [hp] at hp'
      cases result with
      | error what => simp [onDownloadFinished, hp', completes, hr, hp]
      | ok data =>
        have hnext := ready_downloadNext ((d.forget id).accept M r entry rest data)
        cases writable with
        | false => cases rest <;> simp [onDownloadFinished, hp', completes, hr, hp]
        | true =>
          by_cases hv : entry.sha256 ≠ "" ∧ M.sha256Hex data = entry.sha256
          · rw [onDownloadFinished_ok M r hp' hv.2]
            cases rest <;> simp_all [completes, accept, write]
          · have hbad := (verifyFile_write M r entry data { d.forget id with pending := rest }).trans (decide_eq_false hv)
            cases rest <;> simp [onDownloadFinished, hp', hbad, completes, hr, hp, hv]

/-- Progress announces nothing. -/
theorem ready_replyProgress (d : ModelDownloader) (id : Nat) (received total : Int) :
    (step M d (.replyProgress id received total)).2.count .allModelsReady = 0 := by
  rw [step]
  split
  · simp
  · unfold onReplyProgress
    split <;> simp

end ModelDownloader

/-- The models load. -/
def InitOutcome.loads : InitOutcome → Bool
  | .loadFailed _ => false
  | .loaded _ _ => true

/-- Two threads that run already or not both run after a start. -/
def InitOutcome.threadsRun (inferenceThread encoderThread : Bool) : InitOutcome → Bool
  | .loadFailed _ => false
  | .loaded inferenceStarts encoderStarts => (inferenceThread || inferenceStarts) && (encoderThread || encoderStarts)

namespace Startup

variable (M : ModelStore)

/-- Both threads run after a start. -/
def threadsRun (outcome : InitOutcome) (s : Startup) : Bool :=
  outcome.threadsRun s.inferenceThread s.encoderThread

/-! ## The pipelines after a step -/

/-- An attempt that loads the models adds one pipeline. -/
theorem pipelines_initAudioPipeline (retryCount : Nat) (outcome : InitOutcome) (s : Startup) :
    (s.initAudioPipeline retryCount outcome).pipelines =
      s.pipelines ++ if outcome.loads then [⟨s.threadsRun outcome⟩] else [] := by
  unfold initAudioPipeline
  cases outcome with
  | loadFailed what =>
    dsimp only
    split <;> simp [InitOutcome.loads, appendLog, setPipelineHealth]
  | loaded inferenceStarts encoderStarts =>
    dsimp only
    split
    · rename_i hi
      simp [InitOutcome.loads, threadsRun, InitOutcome.threadsRun, hi]
    · rename_i hi
      split
      · rename_i he
        simp [InitOutcome.loads, threadsRun, InitOutcome.threadsRun, he]
      · rename_i he
        simp only [Bool.not_eq_false] at hi he
        simp [InitOutcome.loads, threadsRun, InitOutcome.threadsRun, hi, he]

/-- A try to start adds one pipeline, if the microphone is allowed, the models are there and they load. -/
theorem pipelines_tryStartPipeline (outcome : InitOutcome) (s : Startup) :
    (s.tryStartPipeline outcome).pipelines =
      s.pipelines ++ if s.micPermissionGranted && s.modelsReady && outcome.loads then [⟨s.threadsRun outcome⟩] else [] := by
  unfold tryStartPipeline
  split
  · rename_i h
    simp [pipelines_initAudioPipeline, h]
  · rename_i h
    cases hm : s.micPermissionGranted <;> cases hr : s.modelsReady <;> simp_all

/-- A try to start leaves the permission. -/
theorem micPermissionGranted_tryStartPipeline (outcome : InitOutcome) (s : Startup) :
    (s.tryStartPipeline outcome).micPermissionGranted = s.micPermissionGranted := by
  unfold tryStartPipeline initAudioPipeline
  cases outcome with
  | loadFailed what => dsimp only; split <;> rfl
  | loaded inferenceStarts encoderStarts =>
    dsimp only
    repeat' split
    all_goals rfl

/-- A start that is tried again finds the threads that the first one left running. -/
theorem threadsRun_tryStartPipeline (outcome : InitOutcome) (s : Startup) :
    (s.tryStartPipeline outcome).threadsRun outcome = s.threadsRun outcome := by
  unfold tryStartPipeline initAudioPipeline
  cases outcome with
  | loadFailed what => rfl
  | loaded inferenceStarts encoderStarts =>
    dsimp only
    repeat' split
    all_goals simp [threadsRun, InitOutcome.threadsRun, threadFailed, appendLog, setPipelineHealth]

/-- Signals of the downloader leave the permission as it is, and each "ready" among them is a try to start. -/
theorem pipelines_foldl_onDownloaderSignal (outcome : InitOutcome) (signals : List DownloaderSignal) (s : Startup) :
    (signals.foldl (onDownloaderSignal outcome) s).pipelines =
      s.pipelines ++ List.replicate (if s.micPermissionGranted && outcome.loads then signals.count .allModelsReady else 0)
        ⟨s.threadsRun outcome⟩ := by
  induction signals generalizing s with
  | nil => simp
  | cons signal signals ih =>
    rw [List.foldl_cons, ih]
    cases signal with
    | downloadProgress percent => simp [onDownloaderSignal]
    | downloadError reason => simp [onDownloaderSignal, appendLog, threadsRun]
    | allModelsReady =>
      have hmic : (s.onDownloaderSignal outcome .allModelsReady).micPermissionGranted = s.micPermissionGranted :=
        micPermissionGranted_tryStartPipeline outcome _
      have hruns : (s.onDownloaderSignal outcome .allModelsReady).threadsRun outcome = s.threadsRun outcome := by
        rw [onDownloaderSignal, threadsRun_tryStartPipeline]
        rfl
      have hpipelines := pipelines_tryStartPipeline outcome ({ s with modelsReady := true }.setPipelineHealth "initializing")
      have hready : ({ s with modelsReady := true }.setPipelineHealth "initializing").threadsRun outcome =
          s.threadsRun outcome := rfl
      rw [hmic, hruns, onDownloaderSignal, hpipelines, hready]
      cases s.micPermissionGranted <;> cases outcome.loads <;> simp [setPipelineHealth, List.replicate_succ]

/-- An event that leads to a start whose models load. A permission starts the pipeline when the models are ready; a
session when the microphone is allowed and no model is missing; the end of a reply when it completes the models; a retry
whenever its timer fires. -/
def Builds (s : Startup) : Event → Bool
  | .permission granted outcome => s.permissionPending && granted && s.modelsReady && outcome.loads
  | .sessionOpened outcome => s.micPermissionGranted && decide (s.downloader.missing M = []) && outcome.loads
  | .replyProgress _ _ _ => false
  | .replyFinished id result writable outcome =>
    s.micPermissionGranted && s.downloader.completes M id result writable && outcome.loads
  | .retryTimer i outcome => decide (i < s.retries.length) && outcome.loads

/-- The threads run when the event has led to a start. -/
def Event.threadsRun (s : Startup) : Event → Bool
  | .permission _ outcome | .sessionOpened outcome | .replyFinished _ _ _ outcome | .retryTimer _ outcome =>
    s.threadsRun outcome
  | .replyProgress _ _ _ => false

/-- A step adds one pipeline or none. -/
theorem pipelines_step (s : Startup) (e : Event) :
    (step M s e).pipelines = s.pipelines ++ if Builds M s e then [⟨e.threadsRun s⟩] else [] := by
  cases e with
  | permission granted outcome =>
    rw [step]
    cases hp : s.permissionPending with
    | false => simp [Builds, hp]
    | true =>
      cases granted with
      | false => simp [handlePermission, appendLog, setPipelineHealth, Builds]
      | true =>
        simp [handlePermission, pipelines_tryStartPipeline, appendLog, Builds, hp, Event.threadsRun, threadsRun]
  | sessionOpened outcome =>
    rw [step, afterDownloader, pipelines_foldl_onDownloaderSignal, ModelDownloader.ready_checkAndDownload]
    cases hm : s.micPermissionGranted <;> cases hl : outcome.loads <;>
      simp [setPipelineHealth, Builds, hm, hl, Event.threadsRun, threadsRun]
    split <;> rfl
  | replyProgress id received total =>
    rw [step, afterDownloader, pipelines_foldl_onDownloaderSignal, ModelDownloader.ready_replyProgress]
    simp [Builds]
  | replyFinished id result writable outcome =>
    rw [step, afterDownloader, pipelines_foldl_onDownloaderSignal, ModelDownloader.ready_replyFinished]
    cases hm : s.micPermissionGranted <;> cases hl : outcome.loads <;> simp [Builds, hm, hl, Event.threadsRun, threadsRun]
    split <;> rfl
  | retryTimer i outcome =>
    rw [step]
    cases hi : s.retries[i]? with
    | none =>
      have hge : ¬i < s.retries.length := Nat.not_lt.2 (List.getElem?_eq_none_iff.1 hi)
      simp [Builds, hge]
    | some retryCount =>
      have hlt : i < s.retries.length := (List.getElem?_eq_some_iff.1 hi).1
      simp [pipelines_initAudioPipeline, Builds, hlt, Event.threadsRun, threadsRun]

end Startup

end PairionClient
