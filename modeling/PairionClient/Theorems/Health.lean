import PairionClient.Lemmas.HealthMonitor

namespace PairionClient

open Transition

namespace PipelineHealthMonitor

/-! ## What "ready" says after a health check -/

/-- A property of the health checks of a run: of the answers of the system to the check and of the components before it.
-/
def AtCheck (P : CheckOutcome → PipelineHealthMonitor → Prop) (p : PipelineHealthMonitor) : Event → Prop
  | .performHealthCheck a => P a p
  | _ => True

/-- If the check leaves "ready", then the socket is connected, the capture runs, both threads were found running and no
frame timeout is in force. -/
def ReadyIsSound (a : CheckOutcome) (p : PipelineHealthMonitor) : Prop :=
  (p.performHealthCheck a).pipelineHealth = "ready" →
    (p.performHealthCheck a).wsConnected = true ∧ (p.performHealthCheck a).capture.running = true ∧
      p.encoderThread = true ∧ p.inferenceThread = true ∧ (p.performHealthCheck a).frameTimeout = false

/-- The socket is down, everything else is found up, and the health is "ready" or one that the check resets. The recovery
block then overwrites "server_disconnected", which the same pass may just have set. -/
def ResetsOffline (a : CheckOutcome) (p : PipelineHealthMonitor) : Prop :=
  p.wsConnected = false ∧ p.healthy a = true ∧ (p.pipelineHealth = "ready" ∨ p.pipelineHealth ∈ recoverable)

/-- A thread is found down and every one that is down starts again, with the socket and the capture up, no timeout and
"ready" as the health. The pass is then not healthy, but no check says so. -/
def KeepsReady (a : CheckOutcome) (p : PipelineHealthMonitor) : Prop :=
  p.wsConnected = true ∧ p.pipelineHealth = "ready" ∧ p.brought a = true ∧
    ¬(p.encoderThread = true ∧ p.inferenceThread = true)

/-- One check: "ready" is sound exactly when neither of the two happens. -/
theorem readyIsSound_iff (a : CheckOutcome) (p : PipelineHealthMonitor) :
    ReadyIsSound a p ↔ ¬ResetsOffline a p ∧ ¬KeepsReady a p := by
  obtain ⟨-, hcapture, -, hws, htimeout⟩ := performHealthCheck_spec a p
  unfold ReadyIsSound ResetsOffline KeepsReady
  rw [performHealthCheck_ready, hcapture, hws, htimeout]
  constructor
  · intro h
    constructor
    · rintro ⟨hoff, hhealthy, hreset⟩
      have := (h (.inl ⟨hhealthy, hreset⟩)).1
      rw [hoff] at this
      cases this
    · rintro ⟨hon, hready, hbrought, hdown⟩
      obtain ⟨-, -, henc, hinf, -⟩ := h (.inr ⟨hbrought, hon, hready⟩)
      exact hdown ⟨henc, hinf⟩
  · rintro ⟨hreset, hkeep⟩ (⟨hhealthy, hh⟩ | ⟨hbrought, hon, hready⟩)
    · have hon : p.wsConnected = true := by
        by_contra hoff
        exact hreset ⟨Bool.eq_false_iff.2 hoff, hhealthy, hh⟩
      simp only [healthy, Bool.and_eq_true, Bool.not_eq_true'] at hhealthy
      obtain ⟨⟨⟨hup, henc⟩, hinf⟩, hflow⟩ := hhealthy
      exact ⟨hon, hup, henc, hinf, hflow⟩
    · have hthreads : p.encoderThread = true ∧ p.inferenceThread = true := by
        by_contra hdown
        exact hkeep ⟨hon, hready, hbrought, hdown⟩
      simp only [brought, Bool.and_eq_true, Bool.not_eq_true'] at hbrought
      exact ⟨hon, hbrought.1.1.1, hthreads.1, hthreads.2, hbrought.2⟩

/-- Over every run: each check leaves a "ready" that is sound exactly when no check of the run overwrites a lost
connection or keeps "ready" over a thread it found down. -/
theorem ready_sound_after_every_check (env : Env) (p : PipelineHealthMonitor) (es : List Event) :
    EveryStep (step env) (AtCheck ReadyIsSound) p es ↔
      EveryStep (step env) (AtCheck fun a p => ¬ResetsOffline a p ∧ ¬KeepsReady a p) p es := by
  have hstep (p : PipelineHealthMonitor) (e : Event) :
      AtCheck ReadyIsSound p e ↔ AtCheck (fun a p => ¬ResetsOffline a p ∧ ¬KeepsReady a p) p e := by
    cases e with
    | performHealthCheck a => exact readyIsSound_iff a p
    | _ => exact Iff.rfl
  exact everyStep_congr hstep p es

/-- The pipeline of a program whose socket is connected, as `initAudioPipeline` leaves it. -/
def started : PipelineHealthMonitor :=
  startPipeline (.opened 0) {
    encoderThread := true
    inferenceThread := true
    orchestrator := .create {} { socket := .connected } {} }

/-- The connection is lost, and the next check finds the rest up: it sets "server_disconnected" and then "ready". -/
theorem ready_sound_after_every_check_false :
    ¬∀ (env : Env) (p : PipelineHealthMonitor) (es : List Event), EveryStep (step env) (AtCheck ReadyIsSound) p es := by
  intro h
  have hcheck := (h .silence started [.orchestrator (.socketStateChanged .unconnected), .orchestrator .wsDisconnected,
    .performHealthCheck ⟨.opened 1, true, true⟩]).2.2.1
  have hready : ((run (step .silence) started [.orchestrator (.socketStateChanged .unconnected),
      .orchestrator .wsDisconnected]).performHealthCheck ⟨.opened 1, true, true⟩).pipelineHealth = "ready" := by decide
  have hoff : ((run (step .silence) started [.orchestrator (.socketStateChanged .unconnected),
      .orchestrator .wsDisconnected]).performHealthCheck ⟨.opened 1, true, true⟩).wsConnected = false := by decide
  have hon := (hcheck hready).1
  exact Bool.noConfusion (hoff.symm.trans hon)

/-! ## A "ready" pipeline that listens -/

/-- A fault has parked the orchestrator, and no event since has made it listen: read off the events of a run, with `b` for
what was before it. -/
def parked (env : Env) : Bool → PipelineHealthMonitor → List Event → Bool
  | b, _, [] => b
  | b, p, e :: es => parked env (p.faults e || (b && !e.resumes)) (step env p e) es

/-- Over a run, the session is idle exactly when the events have parked it. -/
theorem state_idle_run (env : Env) (b : Bool) (p : PipelineHealthMonitor) (es : List Event)
    (h : p.orchestrator.state = .idle ↔ b = true) :
    (run (step env) p es).orchestrator.state = .idle ↔ parked env b p es = true := by
  induction es generalizing b p with
  | nil => exact h
  | cons e es ih =>
    refine ih _ _ ?_
    rw [state_idle_step, h, Bool.or_eq_true, Bool.and_eq_true, Bool.not_eq_true']

/-- The start of the pipeline leaves an orchestrator that is not in Idle, even when the capture does not start. -/
theorem state_startPipeline (outcome : StartOutcome) (p : PipelineHealthMonitor) :
    (p.startPipeline outcome).orchestrator.state ≠ .idle := by
  have hlisten (o : AudioSessionOrchestrator) : o.startListening.state ≠ .idle := by
    by_cases hs : o.state = .idle
    · rw [AudioSessionOrchestrator.startListening_eq hs]
      exact nofun
    · rwa [AudioSessionOrchestrator.startListening_of_ne hs]
  exact hlisten _

/-- The check leaves "ready", by what it finds: everything up and a health that it resets, or "ready" kept. -/
def LeavesReady (a : CheckOutcome) (p : PipelineHealthMonitor) : Prop :=
  (p.healthy a = true ∧ (p.pipelineHealth = "ready" ∨ p.pipelineHealth ∈ recoverable)) ∨
    (p.brought a = true ∧ p.wsConnected = true ∧ p.pipelineHealth = "ready")

/-- In every state that a started pipeline reaches: if a check there leaves "ready" then the orchestrator is not in Idle,
exactly when a check that leaves "ready" there finds no fault that nothing has made up for by listening again. -/
theorem not_idle_of_ready_iff (env : Env) (outcome : StartOutcome) (p : PipelineHealthMonitor) (es : List Event)
    (a : CheckOutcome) :
    (((run (step env) (p.startPipeline outcome) es).performHealthCheck a).pipelineHealth = "ready" →
        ((run (step env) (p.startPipeline outcome) es).performHealthCheck a).orchestrator.state ≠ .idle) ↔
      (LeavesReady a (run (step env) (p.startPipeline outcome) es) →
        parked env false (p.startPipeline outcome) es = false) := by
  have hidle := state_idle_run env false (p.startPipeline outcome) es
    (by simpa using state_startPipeline outcome p)
  revert hidle
  generalize run (step env) (p.startPipeline outcome) es = q
  intro hidle
  rw [performHealthCheck_ready]
  refine imp_congr_right ?_
  intro hready
  -- a check that leaves "ready" has the capture up, so it emits no error and leaves the orchestrator's state alone
  have hup : q.captureUp a = true := by
    rcases hready with ⟨h, -⟩ | ⟨h, -⟩
    · simp only [healthy, Bool.and_eq_true] at h
      exact h.1.1.1
    · simp only [brought, Bool.and_eq_true] at h
      exact h.1.1.1
  rw [(performHealthCheck_spec a q).2.2.1, if_pos hup, Ne, hidle, Bool.not_eq_true]

/-- The device is lost: the error parks the orchestrator, the check restarts the capture, and "ready" stays over a
pipeline that ignores its wake word. -/
theorem not_idle_of_ready_false :
    ¬∀ (env : Env) (outcome : StartOutcome) (p : PipelineHealthMonitor) (es : List Event) (a : CheckOutcome),
      ((run (step env) (p.startPipeline outcome) es).performHealthCheck a).pipelineHealth = "ready" →
        ((run (step env) (p.startPipeline outcome) es).performHealthCheck a).orchestrator.state ≠ .idle := by
  intro h
  refine h .silence (.opened 0) {
    encoderThread := true
    inferenceThread := true
    orchestrator := .create {} { socket := .connected } {} } [.audioSourceStateChanged true 3]
    ⟨.opened 1, true, true⟩ ?_ ?_
  · decide
  · decide

end PipelineHealthMonitor

end PairionClient
