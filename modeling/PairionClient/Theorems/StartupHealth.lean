import PairionClient.Lemmas.Startup

/-!
# What the health line says while the program starts

The callbacks of `main` write one status string each on its own. Two of its values say that something is under way, and
this is about what is: for "models_loading" a download, for "initializing" the answer of the user or a retry. A status is
kept honest by all steps but two: the models are announced although the microphone is denied, and the last reply in flight
ends the download with an error that only the log hears of.
-/

namespace PairionClient

open Transition

namespace ModelDownloader

variable (M : ModelStore)

/-- A reply brings the bytes of the head of the pending list, and they can be written. -/
def accepts (d : ModelDownloader) (result : Except String Bytes) (writable : Bool) : Bool :=
  match d.pending, result with
  | entry :: _, .ok data => writable && decide (M.sha256Hex data = entry.sha256)
  | _, _ => false

theorem accepts_nil {d : ModelDownloader} (hp : d.pending = []) (result : Except String Bytes) (writable : Bool) :
    d.accepts M result writable = false := by
  simp [accepts, hp]

/-- A reply is accepted if it brings the bytes of the head of the pending list and they can be written. -/
theorem accepts_iff {d : ModelDownloader} {entry : ModelEntry} {rest : List ModelEntry} (hp : d.pending = entry :: rest)
    (result : Except String Bytes) (writable : Bool) :
    d.accepts M result writable = true ↔
      ∃ data, result = .ok data ∧ writable = true ∧ M.sha256Hex data = entry.sha256 := by
  cases result with
  | error what => simp [accepts, hp]
  | ok data => simp [accepts, hp]

/-- What the end of a reply leaves: a reply that is accepted announces the models or asks for the next one, and any other
leaves one reply less in flight. -/
theorem replyFinished_cases (d : ModelDownloader) {id : Nat} {r : Reply} (hr : d.replyOf id = some r)
    (result : Except String Bytes) (writable : Bool) :
    (d.completes M id result writable = true ∧ d.accepts M result writable = true ∧
        ∃ percent, (step M d (.replyFinished id result writable)).2 = [.downloadProgress percent, .allModelsReady]) ∨
      (d.completes M id result writable = false ∧ d.accepts M result writable = true ∧
        .allModelsReady ∉ (step M d (.replyFinished id result writable)).2 ∧
          (step M d (.replyFinished id result writable)).1.inFlight ≠ []) ∨
      (d.completes M id result writable = false ∧ d.accepts M result writable = false ∧
        .allModelsReady ∉ (step M d (.replyFinished id result writable)).2 ∧
          (step M d (.replyFinished id result writable)).1.inFlight = (d.forget id).inFlight) := by
  have hcount := ready_replyFinished M d id result writable
  have hready (h : d.completes M id result writable = false) :
      .allModelsReady ∉ (step M d (.replyFinished id result writable)).2 := by
    rw [h] at hcount
    exact List.count_eq_zero.1 hcount
  have hstep : step M d (.replyFinished id result writable) = onDownloadFinished M r result writable (d.forget id) := by
    simp only [step, hr]
  cases hp : d.pending with
  | nil =>
    have hc : d.completes M id result writable = false := by simp [completes, hp]
    have hp' : (d.forget id).pending = [] := hp
    refine .inr (.inr ⟨hc, accepts_nil M hp result writable, hready hc, ?_⟩)
    rw [hstep, onDownloadFinished_nil M r result writable hp']
  | cons entry rest =>
    have hp' : (d.forget id).pending = entry :: rest := hp
    by_cases ha : d.accepts M result writable = true
    · obtain ⟨data, rfl, rfl, hhash⟩ := (accepts_iff M hp result writable).1 ha
      rw [onDownloadFinished_ok M r hp' hhash] at hstep
      cases hrest : rest with
      | nil =>
        have hne : entry.sha256 ≠ "" := sha256_ne_empty M hhash
        rw [hrest, downloadNext_nil rfl] at hstep
        rw [hstep]
        exact .inl ⟨by simp [completes, hr, hp, hrest, hne, hhash], ha, _, rfl⟩
      | cons next rest' =>
        have hc : d.completes M id (.ok data) true = false := by simp [completes, hp, hrest]
        refine .inr (.inl ⟨hc, ha, hready hc, ?_⟩)
        rw [hstep, hrest, downloadNext_cons rfl]
        simp
    · have ha' : d.accepts M result writable = false := Bool.eq_false_iff.2 ha
      have hc : d.completes M id result writable = false := by
        cases result with
        | error what => simp [completes, hp]
        | ok data => cases rest <;> simp_all [completes, accepts]
      refine .inr (.inr ⟨hc, ha', hready hc, ?_⟩)
      rcases onDownloadFinished_cases M r result writable hp' with ⟨d', reason, heq, hpops⟩ | ⟨data, rfl, rfl, hhash⟩
      · rw [hstep, heq]
        exact hpops.inFlight
      · exact absurd ((accepts_iff M hp _ _).2 ⟨data, rfl, rfl, hhash⟩) ha

end ModelDownloader

namespace Startup

variable (M : ModelStore)

/-! ## What the health line promises -/

def health (s : Startup) : String := s.connState.pipelineHealth

/-- A value that says that something is under way. -/
def InProgress (health : String) : Prop := health = "models_loading" ∨ health = "initializing"

instance : DecidablePred InProgress := fun health =>
  inferInstanceAs (Decidable (health = "models_loading" ∨ health = "initializing"))

/-- The user has answered, and not with a permission. -/
def Denied (s : Startup) : Prop := s.permissionPending = false ∧ s.micPermissionGranted = false

/-- "models_loading" only during a download, "initializing" only while the user has not answered or a retry waits. -/
structure OnlyWhile (s : Startup) : Prop where
  models_loading : s.health = "models_loading" → s.downloader.inFlight ≠ []
  initializing : s.health = "initializing" → s.permissionPending = true ∨ s.retries ≠ []

/-- The health line is honest, and shows no progress once the microphone is denied. -/
structure NeverMasked (s : Startup) : Prop extends OnlyWhile s where
  denied : Denied s → ¬InProgress s.health

/-! ## The steps that break the promise -/

/-- The step announces the models. -/
def Announces (s : Startup) : Event → Prop
  | .sessionOpened _ => s.downloader.missing M = []
  | .replyFinished id result writable _ => s.downloader.completes M id result writable = true
  | _ => False

/-- The models are announced although the microphone is denied. -/
def AnnouncesToDenied (s : Startup) (e : Event) : Prop := Denied s ∧ Announces M s e

/-- The last reply in flight is not accepted while the health line says that models are loading. -/
def DropsLast (s : Startup) : Event → Prop
  | .replyFinished id result writable _ =>
    s.health = "models_loading" ∧ (s.downloader.replyOf id).isSome ∧ (s.downloader.forget id).inFlight = [] ∧
      s.downloader.accepts M result writable = false
  | _ => False

/-- A session opens although the microphone is denied. -/
def OpensToDenied (s : Startup) : Event → Prop
  | .sessionOpened _ => Denied s
  | _ => False

/-! ## What a callback leaves -/

/-- What no announcement and no answer changes. -/
structure Quiet (s s' : Startup) : Prop where
  permissionPending : s'.permissionPending = s.permissionPending
  micPermissionGranted : s'.micPermissionGranted = s.micPermissionGranted
  modelsReady : s'.modelsReady = s.modelsReady
  retries : s'.retries = s.retries
  health : s'.health = s.health

/-- A start that was tried has failed for good, has succeeded, or is tried again. -/
structure Tried (s s' : Startup) : Prop where
  permissionPending : s'.permissionPending = s.permissionPending
  micPermissionGranted : s'.micPermissionGranted = s.micPermissionGranted
  modelsReady : s'.modelsReady = s.modelsReady
  downloader : s'.downloader = s.downloader
  settled : (s'.retries = s.retries ∧ ¬InProgress s'.health) ∨ (s'.retries ≠ [] ∧ s'.health = s.health)

/-- What an announcement of the models leaves: "initializing" stays when the start waits for the answer of the user. -/
structure Announced (s s' : Startup) : Prop where
  permissionPending : s'.permissionPending = s.permissionPending
  micPermissionGranted : s'.micPermissionGranted = s.micPermissionGranted
  modelsReady : s'.modelsReady = true
  granted : s.micPermissionGranted = true → ¬InProgress s'.health ∨ (s'.retries ≠ [] ∧ s'.health = "initializing")
  waits : s.micPermissionGranted = false → s'.retries = s.retries ∧ s'.health = "initializing"

/-- An attempt is a start that was tried. -/
theorem tried_initAudioPipeline (retryCount : Nat) (outcome : InitOutcome) (s : Startup) :
    Tried s (s.initAudioPipeline retryCount outcome) := by
  unfold initAudioPipeline
  cases outcome with
  | loadFailed what =>
    have hfailed : ¬InProgress "models_failed" := by decide
    dsimp only
    split
    · exact ⟨rfl, rfl, rfl, rfl, .inr ⟨by simp, rfl⟩⟩
    · exact ⟨rfl, rfl, rfl, rfl, .inl ⟨rfl, hfailed⟩⟩
  | loaded inferenceStarts encoderStarts =>
    have herror : ¬InProgress "pipeline_error" := by decide
    have hready : ¬InProgress "ready" := by decide
    dsimp only
    split
    · exact ⟨rfl, rfl, rfl, rfl, .inl ⟨rfl, herror⟩⟩
    · split
      · exact ⟨rfl, rfl, rfl, rfl, .inl ⟨rfl, herror⟩⟩
      · exact ⟨rfl, rfl, rfl, rfl, .inl ⟨rfl, hready⟩⟩

/-- The handler of `allModelsReady`. -/
theorem announced_onDownloaderSignal (outcome : InitOutcome) (s : Startup) :
    Announced s (s.onDownloaderSignal outcome .allModelsReady) := by
  rw [onDownloaderSignal, tryStartPipeline]
  split
  · rename_i hstart
    have htried := tried_initAudioPipeline 3 outcome ({ s with modelsReady := true }.setPipelineHealth "initializing")
    refine ⟨htried.permissionPending, htried.micPermissionGranted, htried.modelsReady, ?_, ?_⟩
    · intro _
      exact htried.settled.imp And.right id
    · intro hmic
      exact absurd hstart.1 (by simp [setPipelineHealth, hmic])
  · rename_i hstart
    refine ⟨rfl, rfl, rfl, ?_, fun _ => ⟨rfl, rfl⟩⟩
    intro hmic
    exact absurd ⟨hmic, rfl⟩ hstart

/-- Signals without "ready" among them change nothing that counts. -/
theorem quiet_foldl (outcome : InitOutcome) {signals : List DownloaderSignal} (h : .allModelsReady ∉ signals) (s : Startup) :
    Quiet s (signals.foldl (onDownloaderSignal outcome) s) ∧
      (signals.foldl (onDownloaderSignal outcome) s).downloader = s.downloader := by
  induction signals generalizing s with
  | nil => exact ⟨⟨rfl, rfl, rfl, rfl, rfl⟩, rfl⟩
  | cons signal signals ih =>
    rw [List.mem_cons, not_or] at h
    obtain ⟨hquiet, hdownloader⟩ := ih h.2 (s.onDownloaderSignal outcome signal)
    cases signal with
    | allModelsReady => exact absurd rfl h.1
    | downloadProgress percent => exact ⟨hquiet, hdownloader⟩
    | downloadError reason =>
      exact ⟨⟨hquiet.permissionPending, hquiet.micPermissionGranted, hquiet.modelsReady, hquiet.retries, hquiet.health⟩,
        hdownloader⟩

/-! ## The steps -/

/-- A step that announces the models. -/
theorem announced_step {s : Startup} {e : Event} (h : Announces M s e) : Announced s (step M s e) := by
  cases e with
  | sessionOpened outcome =>
    have hmissing : s.downloader.missing M = [] := h
    have hcheck := ModelDownloader.checkAndDownload_eq M s.downloader
    rw [ModelDownloader.downloadNext_nil hmissing] at hcheck
    have hannounced := announced_onDownloaderSignal outcome
      { s.setPipelineHealth "models_loading" with downloader := (s.downloader.checkAndDownload M).1 }
    rw [step, afterDownloader, hcheck]
    rw [hcheck] at hannounced
    exact ⟨hannounced.permissionPending, hannounced.micPermissionGranted, hannounced.modelsReady, hannounced.granted,
      hannounced.waits⟩
  | replyFinished id result writable outcome =>
    have h : s.downloader.completes M id result writable = true := h
    cases hr : s.downloader.replyOf id with
    | none => simp [ModelDownloader.completes, hr] at h
    | some r =>
      rcases ModelDownloader.replyFinished_cases M s.downloader hr result writable with
        ⟨-, -, percent, hsignals⟩ | hno | hno
      · have hannounced := announced_onDownloaderSignal outcome
          { s with downloader := (s.downloader.step M (.replyFinished id result writable)).1 }
        rw [step, afterDownloader, hsignals]
        exact ⟨hannounced.permissionPending, hannounced.micPermissionGranted, hannounced.modelsReady, hannounced.granted,
          hannounced.waits⟩
      · rw [h] at hno
        exact absurd hno.1 (by decide)
      · rw [h] at hno
        exact absurd hno.1 (by decide)
  | permission granted outcome => exact h.elim
  | replyProgress id received total => exact h.elim
  | retryTimer i outcome => exact h.elim

/-- A session that finds models missing asks for one. -/
theorem sessionOpened_missing {s : Startup} (outcome : InitOutcome) (h : s.downloader.missing M ≠ []) :
    (step M s (.sessionOpened outcome)).health = "models_loading" ∧
      (step M s (.sessionOpened outcome)).downloader.inFlight ≠ [] ∧
        (step M s (.sessionOpened outcome)).permissionPending = s.permissionPending ∧
          (step M s (.sessionOpened outcome)).micPermissionGranted = s.micPermissionGranted ∧
            (step M s (.sessionOpened outcome)).retries = s.retries := by
  obtain ⟨entry, rest, hmissing⟩ := List.exists_cons_of_ne_nil h
  have hcheck := ModelDownloader.checkAndDownload_eq M s.downloader
  rw [ModelDownloader.downloadNext_cons hmissing] at hcheck
  rw [step, afterDownloader, hcheck]
  exact ⟨rfl, by simp, rfl, rfl, rfl⟩

/-- The end of a reply that announces nothing is quiet. -/
theorem quiet_replyFinished {s : Startup} {id : Nat} {result : Except String Bytes} {writable : Bool}
    (outcome : InitOutcome) (h : s.downloader.completes M id result writable = false) :
    Quiet s (step M s (.replyFinished id result writable outcome)) ∧
      (step M s (.replyFinished id result writable outcome)).downloader =
        (s.downloader.step M (.replyFinished id result writable)).1 := by
  have hcount := ModelDownloader.ready_replyFinished M s.downloader id result writable
  rw [h] at hcount
  have hready : .allModelsReady ∉ (s.downloader.step M (.replyFinished id result writable)).2 := List.count_eq_zero.1 hcount
  obtain ⟨hquiet, hdownloader⟩ := quiet_foldl outcome hready
    { s with downloader := (s.downloader.step M (.replyFinished id result writable)).1 }
  exact ⟨⟨hquiet.permissionPending, hquiet.micPermissionGranted, hquiet.modelsReady, hquiet.retries, hquiet.health⟩,
    hdownloader⟩

/-- So is the progress of a reply, and it leaves the downloader as it is. -/
theorem quiet_replyProgress (s : Startup) (id : Nat) (received total : Int) :
    Quiet s (step M s (.replyProgress id received total)) ∧
      (step M s (.replyProgress id received total)).downloader = s.downloader := by
  have hready := List.count_eq_zero.1 (ModelDownloader.ready_replyProgress M s.downloader id received total)
  have hsame : (s.downloader.step M (.replyProgress id received total)).1 = s.downloader := by
    rw [ModelDownloader.step]
    split <;> rfl
  obtain ⟨hquiet, hdownloader⟩ := quiet_foldl (.loadFailed "") hready
    { s with downloader := (s.downloader.step M (.replyProgress id received total)).1 }
  exact ⟨⟨hquiet.permissionPending, hquiet.micPermissionGranted, hquiet.modelsReady, hquiet.retries, hquiet.health⟩,
    hdownloader.trans hsame⟩

/-! ## The invariant -/

/-- A retry waits only with the microphone allowed, and "initializing" is only read when the models are ready. -/
structure StartInv (s : Startup) : Prop where
  granted_of_retry : s.retries ≠ [] → s.micPermissionGranted = true
  ready_of_initializing : s.health = "initializing" → s.modelsReady = true

/-- What changes nothing that counts keeps the invariant. -/
theorem startInv_quiet {s s' : Startup} (h : Quiet s s') (hinv : StartInv s) : StartInv s' := by
  refine ⟨?_, ?_⟩
  · rw [h.retries, h.micPermissionGranted]
    exact hinv.granted_of_retry
  · rw [h.health, h.modelsReady]
    exact hinv.ready_of_initializing

/-- A start that was tried with the microphone allowed keeps the invariant. -/
theorem startInv_tried {s s' : Startup} (h : Tried s s') (hmic : s.micPermissionGranted = true) (hinv : StartInv s) :
    StartInv s' := by
  refine ⟨fun _ => h.micPermissionGranted.trans hmic, ?_⟩
  intro hhealth
  rcases h.settled with ⟨-, hno⟩ | ⟨-, hsame⟩
  · exact absurd (.inr hhealth) hno
  · rw [h.modelsReady]
    exact hinv.ready_of_initializing (hsame ▸ hhealth)

/-- An announcement of the models keeps the invariant. -/
theorem startInv_announced {s s' : Startup} (h : Announced s s') (hinv : StartInv s) : StartInv s' := by
  refine ⟨?_, fun _ => h.modelsReady⟩
  intro hretries
  rw [h.micPermissionGranted]
  cases hmic : s.micPermissionGranted with
  | true => rfl
  | false =>
    rw [(h.waits hmic).1] at hretries
    exact absurd (hinv.granted_of_retry hretries) (by simp [hmic])

/-- The state after a permission, before a start is tried. -/
def allowed (s : Startup) : Startup := { s with permissionPending := false, micPermissionGranted := true }

/-- A permission starts the pipeline when the models are ready. -/
theorem permission_granted {s : Startup} (outcome : InitOutcome) (hpending : s.permissionPending = true) :
    (s.modelsReady = true ∧ Tried s.allowed (step M s (.permission true outcome))) ∨
      (s.modelsReady = false ∧ Quiet s.allowed (step M s (.permission true outcome)) ∧
        (step M s (.permission true outcome)).downloader = s.downloader) := by
  have hstep : step M s (.permission true outcome) =
      (s.allowed.appendLog "[INFO] Microphone permission granted").tryStartPipeline outcome := by
    rw [step, if_pos hpending, handlePermission, if_pos rfl]
    rfl
  rw [hstep, tryStartPipeline]
  split
  · rename_i hstart
    have htried := tried_initAudioPipeline 3 outcome (s.allowed.appendLog "[INFO] Microphone permission granted")
    exact .inl ⟨hstart.2, htried.permissionPending, htried.micPermissionGranted, htried.modelsReady, htried.downloader,
      htried.settled⟩
  · rename_i hstart
    have hready : s.modelsReady = false := by
      by_contra hready
      exact hstart ⟨rfl, Bool.not_eq_false _ ▸ hready⟩
    exact .inr ⟨hready, ⟨rfl, rfl, rfl, rfl, rfl⟩, rfl⟩

/-- A denial that comes in is shown. -/
theorem permission_denied {s : Startup} (outcome : InitOutcome) (hpending : s.permissionPending = true) :
    (step M s (.permission false outcome)).health = "mic_offline" ∧
      (step M s (.permission false outcome)).micPermissionGranted = s.micPermissionGranted ∧
        (step M s (.permission false outcome)).retries = s.retries := by
  rw [step, if_pos hpending]
  exact ⟨rfl, rfl, rfl⟩

/-- The retry whose timer fires is taken off the list, and the start tried again. -/
theorem retryTimer_cases (s : Startup) (i : Nat) (outcome : InitOutcome) :
    step M s (.retryTimer i outcome) = s ∨
      (s.retries ≠ [] ∧ Tried { s with retries := s.retries.eraseIdx i } (step M s (.retryTimer i outcome))) := by
  rw [step]
  split
  · exact .inl rfl
  · rename_i retryCount hi
    refine .inr ⟨?_, tried_initAudioPipeline retryCount outcome _⟩
    intro hnil
    simp [hnil] at hi

/-- Every event keeps the invariant. -/
theorem startInv_step {s : Startup} (hinv : StartInv s) (e : Event) : StartInv (step M s e) := by
  by_cases hann : Announces M s e
  · exact startInv_announced (announced_step M hann) hinv
  · cases e with
    | permission granted outcome =>
      cases hpending : s.permissionPending with
      | false => simpa only [step, hpending, Bool.false_eq_true, if_false] using hinv
      | true =>
        cases granted with
        | false =>
          obtain ⟨hhealth, hmic, hretries⟩ := permission_denied M outcome hpending
          refine ⟨?_, fun h => absurd (hhealth.symm.trans h) (by decide)⟩
          rw [hmic, hretries]
          exact hinv.granted_of_retry
        | true =>
          have hallowed : StartInv s.allowed := ⟨fun _ => rfl, hinv.ready_of_initializing⟩
          rcases permission_granted M outcome hpending with ⟨-, htried⟩ | ⟨-, hquiet, -⟩
          · exact startInv_tried htried rfl hallowed
          · exact startInv_quiet hquiet hallowed
    | sessionOpened outcome =>
      obtain ⟨hhealth, -, -, hmic, hretries⟩ := sessionOpened_missing M outcome hann
      refine ⟨?_, fun h => absurd (hhealth.symm.trans h) (by decide)⟩
      rw [hmic, hretries]
      exact hinv.granted_of_retry
    | replyProgress id received total => exact startInv_quiet (quiet_replyProgress M s id received total).1 hinv
    | replyFinished id result writable outcome =>
      exact startInv_quiet (quiet_replyFinished M outcome (Bool.eq_false_iff.2 hann)).1 hinv
    | retryTimer i outcome =>
      rcases retryTimer_cases M s i outcome with hsame | ⟨hretries, htried⟩
      · rwa [hsame]
      · have hmic := hinv.granted_of_retry hretries
        exact startInv_tried htried hmic ⟨fun _ => hmic, hinv.ready_of_initializing⟩

/-! ## The promise, step by step -/

/-- A start that was tried with the microphone allowed keeps the promise, if the health line promised nothing that has
ended. -/
theorem onlyWhile_tried {s s' : Startup} (h : Tried s s') (hloading : s.health = "models_loading" → s.downloader.inFlight ≠ []) :
    OnlyWhile s' := by
  rcases h.settled with ⟨-, hno⟩ | ⟨hretries, hsame⟩
  · exact ⟨fun hl => absurd (.inl hl) hno, fun hi => absurd (.inr hi) hno⟩
  · refine ⟨?_, fun _ => .inr hretries⟩
    rw [hsame, h.downloader]
    exact hloading

/-- An announcement keeps the promise unless the microphone is denied. -/
theorem onlyWhile_announced {s s' : Startup} (h : Announced s s') (hdenied : ¬Denied s) : OnlyWhile s' := by
  cases hmic : s.micPermissionGranted with
  | true =>
    rcases h.granted hmic with hno | ⟨hretries, hhealth⟩
    · exact ⟨fun hl => absurd (.inl hl) hno, fun hi => absurd (.inr hi) hno⟩
    · exact ⟨fun hl => absurd (hhealth.symm.trans hl) (by decide), fun _ => .inr hretries⟩
  | false =>
    have hpending : s.permissionPending = true := by
      by_contra hpending
      exact hdenied ⟨Bool.eq_false_iff.2 hpending, hmic⟩
    refine ⟨fun hl => absurd ((h.waits hmic).2.symm.trans hl) (by decide), fun _ => .inl ?_⟩
    rw [h.permissionPending, hpending]

/-- What changes nothing that counts keeps the health honest, if what was loading still is. -/
theorem onlyWhile_quiet {s s' : Startup} (hq : Quiet s s') (h : OnlyWhile s)
    (hflight : s.health = "models_loading" → s'.downloader.inFlight ≠ []) : OnlyWhile s' := by
  refine ⟨?_, ?_⟩
  · rw [hq.health]
    exact hflight
  · rw [hq.health, hq.permissionPending, hq.retries]
    exact h.initializing

/-- What a reply that is not dropped leaves in flight. -/
theorem inFlight_replyFinished {s : Startup} {id : Nat} {result : Except String Bytes} {writable : Bool}
    {outcome : InitOutcome} (hno : s.downloader.completes M id result writable = false) (hloading : s.health = "models_loading")
    (hflight : s.downloader.inFlight ≠ []) (hdrop : ¬DropsLast M s (.replyFinished id result writable outcome)) :
    (s.downloader.step M (.replyFinished id result writable)).1.inFlight ≠ [] := by
  cases hr : s.downloader.replyOf id with
  | none => simpa only [ModelDownloader.step, hr] using hflight
  | some r =>
    rcases ModelDownloader.replyFinished_cases M s.downloader hr result writable with
      ⟨hyes, -, -⟩ | ⟨-, -, -, hnext⟩ | ⟨-, haccept, -, hforget⟩
    · exact absurd (hno.symm.trans hyes) (by decide)
    · exact hnext
    · rw [hforget]
      exact fun hnil => hdrop ⟨hloading, by simp [hr], hnil, haccept⟩

/-- A step that neither announces to a denied microphone nor drops the last reply keeps the health honest. -/
theorem onlyWhile_step {s : Startup} {e : Event} (hinv : StartInv s) (h : OnlyWhile s) (hmask : ¬AnnouncesToDenied M s e)
    (hdrop : ¬DropsLast M s e) : OnlyWhile (step M s e) := by
  by_cases hann : Announces M s e
  · exact onlyWhile_announced (announced_step M hann) fun hdenied => hmask ⟨hdenied, hann⟩
  · cases e with
    | permission granted outcome =>
      cases hpending : s.permissionPending with
      | false => simpa only [step, hpending, Bool.false_eq_true, if_false] using h
      | true =>
        cases granted with
        | false =>
          have hhealth := (permission_denied M outcome hpending).1
          exact ⟨fun hl => absurd (hhealth.symm.trans hl) (by decide), fun hi => absurd (hhealth.symm.trans hi) (by decide)⟩
        | true =>
          rcases permission_granted M outcome hpending with ⟨-, htried⟩ | ⟨hready, hquiet, hdownloader⟩
          · exact onlyWhile_tried htried h.models_loading
          · -- the models are not ready, so "initializing" has not been set
            have hno : s.health ≠ "initializing" := fun hi => by simp [hinv.ready_of_initializing hi] at hready
            refine ⟨?_, fun hi => absurd (hquiet.health.symm.trans hi) hno⟩
            rw [hquiet.health, hdownloader]
            exact h.models_loading
    | sessionOpened outcome =>
      obtain ⟨hhealth, hflight, -, -, -⟩ := sessionOpened_missing M outcome hann
      exact ⟨fun _ => hflight, fun hi => absurd (hhealth.symm.trans hi) (by decide)⟩
    | replyProgress id received total =>
      obtain ⟨hquiet, hdownloader⟩ := quiet_replyProgress M s id received total
      refine onlyWhile_quiet hquiet h ?_
      rw [hdownloader]
      exact h.models_loading
    | replyFinished id result writable outcome =>
      have hno := Bool.eq_false_iff.2 hann
      obtain ⟨hquiet, hdownloader⟩ := quiet_replyFinished M outcome hno
      refine onlyWhile_quiet hquiet h ?_
      intro hl
      rw [hdownloader]
      exact inFlight_replyFinished M hno hl (h.models_loading hl) hdrop
    | retryTimer i outcome =>
      rcases retryTimer_cases M s i outcome with hsame | ⟨-, htried⟩
      · rwa [hsame]
      · exact onlyWhile_tried htried h.models_loading

/-- A denial stays shown until a session opens or the models are announced. -/
theorem denied_step {s : Startup} {e : Event} (hinv : StartInv s) (h : Denied s → ¬InProgress s.health)
    (hmask : ¬AnnouncesToDenied M s e) (hopen : ¬OpensToDenied s e) (hdenied : Denied (step M s e)) :
    ¬InProgress (step M s e).health := by
  have hquiet {s' : Startup} (hq : Quiet s s') (hdenied : Denied s') : ¬InProgress s'.health := by
    rw [hq.health]
    exact h ⟨hq.permissionPending.symm.trans hdenied.1, hq.micPermissionGranted.symm.trans hdenied.2⟩
  by_cases hann : Announces M s e
  · have hannounced := announced_step M hann
    exact absurd ⟨⟨hannounced.permissionPending.symm.trans hdenied.1, hannounced.micPermissionGranted.symm.trans hdenied.2⟩,
      hann⟩ hmask
  · cases e with
    | permission granted outcome =>
      cases hpending : s.permissionPending with
      | false =>
        simp only [step, hpending, Bool.false_eq_true, if_false] at hdenied ⊢
        exact h hdenied
      | true =>
        cases granted with
        | false =>
          rw [(permission_denied M outcome hpending).1]
          decide
        | true =>
          rcases permission_granted M outcome hpending with ⟨-, htried⟩ | ⟨-, hallowed, -⟩
          · exact absurd (htried.micPermissionGranted.symm.trans hdenied.2) Bool.noConfusion
          · exact absurd (hallowed.micPermissionGranted.symm.trans hdenied.2) Bool.noConfusion
    | sessionOpened outcome =>
      obtain ⟨-, -, hpending, hmic, -⟩ := sessionOpened_missing M outcome hann
      exact absurd ⟨hpending.symm.trans hdenied.1, hmic.symm.trans hdenied.2⟩ hopen
    | replyProgress id received total => exact hquiet (quiet_replyProgress M s id received total).1 hdenied
    | replyFinished id result writable outcome =>
      exact hquiet (quiet_replyFinished M outcome (Bool.eq_false_iff.2 hann)).1 hdenied
    | retryTimer i outcome =>
      rcases retryTimer_cases M s i outcome with hsame | ⟨hretries, htried⟩
      · rw [hsame] at hdenied ⊢
        exact h hdenied
      · have hmic := htried.micPermissionGranted.trans (hinv.granted_of_retry hretries)
        exact absurd (hmic.symm.trans hdenied.2) (by decide)

/-- Nobody will answer, and no retry waits: "initializing" is a promise that nothing keeps. -/
theorem lost_of_announcesToDenied {s : Startup} {e : Event} (hinv : StartInv s) (h : AnnouncesToDenied M s e) :
    ¬OnlyWhile (step M s e) := by
  obtain ⟨⟨hpending, hmic⟩, hann⟩ := h
  have hannounced := announced_step M hann
  obtain ⟨hretries, hhealth⟩ := hannounced.waits hmic
  intro hw
  rcases hw.initializing hhealth with hp | hr
  · rw [hannounced.permissionPending, hpending] at hp
    exact absurd hp (by decide)
  · rw [hretries] at hr
    exact absurd (hmic.symm.trans (hinv.granted_of_retry hr)) (by decide)

/-- When the last reply is dropped, "models_loading" is left without a download. -/
theorem lost_of_dropsLast {s : Startup} {e : Event} (h : DropsLast M s e) : ¬OnlyWhile (step M s e) := by
  cases e with
  | replyFinished id result writable outcome =>
    obtain ⟨hloading, hsome, hnil, haccept⟩ := h
    obtain ⟨r, hr⟩ := Option.isSome_iff_exists.1 hsome
    rcases ModelDownloader.replyFinished_cases M s.downloader hr result writable with
      ⟨-, hyes, -⟩ | ⟨-, hyes, -, -⟩ | ⟨hno, -, -, hforget⟩
    · exact absurd (haccept.symm.trans hyes) (by decide)
    · exact absurd (haccept.symm.trans hyes) (by decide)
    · obtain ⟨hquiet, hdownloader⟩ := quiet_replyFinished M outcome hno
      intro hw
      refine hw.models_loading (hquiet.health.trans hloading) ?_
      rw [hdownloader, hforget, hnil]
  | permission granted outcome => exact h.elim
  | sessionOpened outcome => exact h.elim
  | replyProgress id received total => exact h.elim
  | retryTimer i outcome => exact h.elim

/-- A session that opens to a denied microphone masks the denial. -/
theorem lost_of_opensToDenied {s : Startup} {e : Event} (hmask : ¬AnnouncesToDenied M s e) (h : OpensToDenied s e) :
    ¬NeverMasked (step M s e) := by
  cases e with
  | sessionOpened outcome =>
    have h : Denied s := h
    have hann : ¬Announces M s (.sessionOpened outcome) := fun hann => hmask ⟨h, hann⟩
    obtain ⟨hhealth, -, hpending, hmic, -⟩ := sessionOpened_missing M outcome hann
    exact fun hw => hw.denied ⟨hpending.trans h.1, hmic.trans h.2⟩ (.inl hhealth)
  | permission granted outcome => exact h.elim
  | replyProgress id received total => exact h.elim
  | replyFinished id result writable outcome => exact h.elim
  | retryTimer i outcome => exact h.elim

/-- From the start of the program on, whatever the disk holds and in whatever order the callbacks come, the health line
says "models_loading" and "initializing" only while these are under way if and only if no step announces the models to a
denied microphone, and none drops the last reply in flight. No progress is shown over a denial, either, if and only if no
session opens after one. -/
theorem health_honest (disk : String → Option Bytes) (es : List Event) :
    (Always (step M) OnlyWhile { downloader := { disk := disk } } es ↔
        EveryStep (step M) (fun s e => ¬AnnouncesToDenied M s e ∧ ¬DropsLast M s e) { downloader := { disk := disk } } es) ∧
      (Always (step M) NeverMasked { downloader := { disk := disk } } es ↔
        EveryStep (step M) (fun s e => ¬AnnouncesToDenied M s e ∧ ¬DropsLast M s e ∧ ¬OpensToDenied s e)
          { downloader := { disk := disk } } es) := by
  have hconnecting : ¬InProgress "connecting" := by decide
  have hstart : StartInv { downloader := { disk := disk } } :=
    ⟨fun h => absurd rfl h, fun h => absurd (.inr h) hconnecting⟩
  have hwhile : OnlyWhile { downloader := { disk := disk } } :=
    ⟨fun h => absurd (.inl h) hconnecting, fun h => absurd (.inr h) hconnecting⟩
  have hmasked : NeverMasked { downloader := { disk := disk } } := ⟨hwhile, fun _ => hconnecting⟩
  constructor
  · refine always_iff_everyStep (fun _ => True) (fun s => StartInv s ∧ OnlyWhile s) (fun s h => h.2) ?_ ?_ (fun _ _ => trivial)
      ⟨hstart, hwhile⟩
    · rintro s e - ⟨hinv, h⟩ ⟨hmask, hdrop⟩
      exact ⟨startInv_step M hinv e, onlyWhile_step M hinv h hmask hdrop⟩
    · rintro s e - ⟨hinv, -⟩ hno
      by_cases hmask : AnnouncesToDenied M s e
      · exact lost_of_announcesToDenied M hinv hmask
      · exact lost_of_dropsLast M (not_not.1 fun hdrop => hno ⟨hmask, hdrop⟩)
  · refine always_iff_everyStep (fun _ => True) (fun s => StartInv s ∧ NeverMasked s) (fun s h => h.2) ?_ ?_
      (fun _ _ => trivial) ⟨hstart, hmasked⟩
    · rintro s e - ⟨hinv, h⟩ ⟨hmask, hdrop, hopen⟩
      exact ⟨startInv_step M hinv e, onlyWhile_step M hinv h.toOnlyWhile hmask hdrop,
        denied_step M hinv h.denied hmask hopen⟩
    · rintro s e - ⟨hinv, -⟩ hno hw
      by_cases hmask : AnnouncesToDenied M s e
      · exact lost_of_announcesToDenied M hinv hmask hw.toOnlyWhile
      · by_cases hdrop : DropsLast M s e
        · exact lost_of_dropsLast M hdrop hw.toOnlyWhile
        · exact lost_of_opensToDenied M hmask (not_not.1 fun hopen => hno ⟨hmask, hdrop, hopen⟩) hw

/-- The microphone is denied and the models are cached: the session that opens next leaves "initializing" for good. -/
theorem health_honest_false :
    ¬∀ (M : ModelStore) (disk : String → Option Bytes) (es : List Event),
      Always (step M) NeverMasked { downloader := { disk := disk } } es := by
  intro h
  have hmasked := h ModelDownloader.twoModels ModelDownloader.cachedModels
    [.permission false (.loaded true true), .sessionOpened (.loaded true true)] _ (List.prefix_refl _)
  rcases hmasked.initializing (by decide) with hpending | hretries
  · exact absurd hpending (by decide)
  · exact absurd hretries (by decide)

end Startup

end PairionClient
