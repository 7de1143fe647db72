import PairionClient.Lemmas.Moves
import PairionClient.Pipeline.HealthMonitor

/-!
# What a health check does

What each check of a pass does to the health, to the components and to the pass's verdict, and from these the health that a
whole pass leaves, as a function of what it found.
-/

namespace PairionClient

/-- A start opens a device. -/
def StartOutcome.opens : StartOutcome → Bool
  | .opened _ => true
  | _ => false

namespace PairionAudioCapture

/-- A capture that does not run runs after a start when it brings its own device or the source opens one. -/
theorem running_start (outcome : StartOutcome) {c : PairionAudioCapture} (h : c.running = false) :
    (c.start outcome).1.running = (!c.ownsSource || outcome.opens) := by
  cases hs : c.ownsSource <;> cases outcome <;> simp [start, attach, StartOutcome.opens, h, hs]

/-- A start emits nothing when the capture runs after it, and one error when it does not. -/
theorem signals_start (outcome : StartOutcome) (c : PairionAudioCapture) :
    if (c.start outcome).1.running then (c.start outcome).2 = []
    else ∃ reason, (c.start outcome).2 = [.captureError reason] := by
  cases hr : c.running <;> cases hs : c.ownsSource <;> cases outcome <;> simp [start, attach, hr, hs]

/-- A stop of a capture that does not run does nothing. -/
theorem stop_of_not_running {c : PairionAudioCapture} (h : c.running = false) : c.stop = c := by
  simp [stop, h]

end PairionAudioCapture

namespace PipelineHealthMonitor

/-- `q` differs from `p` at most in the capture, the health, the logs and the orchestrator's pipeline: what the other
checks look at is the same. -/
structure SameElsewhere (p q : PipelineHealthMonitor) : Prop where
  wsConnected : q.wsConnected = p.wsConnected
  encoderThread : q.encoderThread = p.encoderThread
  inferenceThread : q.inferenceThread = p.inferenceThread
  frameTimeout : q.frameTimeout = p.frameTimeout

/-! ## The capture's error and the two setters -/

@[simp] theorem pipelineHealth_appendLog (entry : String) (p : PipelineHealthMonitor) :
    (p.appendLog entry).pipelineHealth = p.pipelineHealth := rfl

@[simp] theorem pipelineHealth_setPipelineHealth (health : String) (p : PipelineHealthMonitor) :
    (p.setPipelineHealth health).pipelineHealth = health := rfl

/-- A log entry touches nothing else. -/
theorem appendLog_spec (entry : String) (p : PipelineHealthMonitor) :
    (p.appendLog entry).orchestrator.state = p.orchestrator.state ∧ (p.appendLog entry).capture = p.capture ∧
      SameElsewhere p (p.appendLog entry) :=
  ⟨rfl, rfl, rfl, rfl, rfl, rfl⟩

theorem SameElsewhere.trans {p q r : PipelineHealthMonitor} (h : SameElsewhere p q) (h' : SameElsewhere q r) :
    SameElsewhere p r :=
  ⟨h'.wsConnected.trans h.wsConnected, h'.encoderThread.trans h.encoderThread, h'.inferenceThread.trans h.inferenceThread,
    h'.frameTimeout.trans h.frameTimeout⟩

/-- The slots of an error of the pipeline park the orchestrator and leave the health as it is. -/
theorem onPipelineError_spec (reason : String) (p : PipelineHealthMonitor) :
    (p.onPipelineError reason).orchestrator.state = .idle ∧
      (p.onPipelineError reason).pipelineHealth = p.pipelineHealth ∧
      (p.onPipelineError reason).capture = p.capture ∧ SameElsewhere p (p.onPipelineError reason) := by
  have h := AudioSessionOrchestrator.onPipelineError_eq reason p.orchestrator
  refine ⟨?_, ?_, rfl, ?_, rfl, rfl, ?_⟩ <;>
    simp [onPipelineError, appendLog, updateConnState, pipelineHealth, wsConnected, frameTimeout, h]

/-- An error of the capture runs those slots, and is logged. -/
theorem onCaptureError_spec (reason : String) (p : PipelineHealthMonitor) :
    (p.onCaptureSignal (.captureError reason)).orchestrator.state = .idle ∧
      (p.onCaptureSignal (.captureError reason)).pipelineHealth = p.pipelineHealth ∧
      (p.onCaptureSignal (.captureError reason)).capture = p.capture ∧
      SameElsewhere p (p.onCaptureSignal (.captureError reason)) := by
  obtain ⟨hstate, hhealth, hcapture, hsame⟩ := onPipelineError_spec reason p
  obtain ⟨hstate', hcapture', hsame'⟩ := appendLog_spec ("[ERROR] Microphone: " ++ reason) (p.onPipelineError reason)
  rw [onCaptureSignal]
  exact ⟨hstate'.trans hstate, (pipelineHealth_appendLog _ _).trans hhealth, hcapture'.trans hcapture, hsame.trans hsame'⟩

/-- Starting the capture: what runs after it, and the orchestrator parked when it failed. -/
theorem afterCapture_start (outcome : StartOutcome) (p : PipelineHealthMonitor) :
    (p.afterCapture (p.capture.start outcome)).capture = (p.capture.start outcome).1 ∧
      (p.afterCapture (p.capture.start outcome)).pipelineHealth = p.pipelineHealth ∧
      (p.afterCapture (p.capture.start outcome)).orchestrator.state =
        (if (p.capture.start outcome).1.running then p.orchestrator.state else .idle) ∧
      SameElsewhere p (p.afterCapture (p.capture.start outcome)) := by
  have hsig := PairionAudioCapture.signals_start outcome p.capture
  split at hsig
  · rename_i hrun
    simp only [afterCapture, hsig, hrun, List.foldl_nil, if_true]
    exact ⟨trivial, rfl, trivial, rfl, rfl, rfl, rfl⟩
  · rename_i hrun
    obtain ⟨reason, hsig⟩ := hsig
    simp only [afterCapture, hsig, hrun, List.foldl_cons, List.foldl_nil]
    obtain ⟨hstate, hhealth, hcapture, hsame⟩ :=
      onCaptureError_spec reason { p with capture := (p.capture.start outcome).1 }
    exact ⟨hcapture, hhealth, hstate, hsame.wsConnected, hsame.encoderThread, hsame.inferenceThread, hsame.frameTimeout⟩

/-! ## The checks of a pass -/

/-- The capture is up after a pass: it ran before, or its restart brings it up. -/
def captureUp (a : CheckOutcome) (p : PipelineHealthMonitor) : Bool :=
  p.capture.running || !p.capture.ownsSource || a.capture.opens

/-- The verdict of a pass: the capture is up, both threads were found running, and frames are coming. -/
def healthy (a : CheckOutcome) (p : PipelineHealthMonitor) : Bool :=
  p.captureUp a && p.encoderThread && p.inferenceThread && !p.frameTimeout

/-- The first check takes "ready" away from a client that is not connected, and touches nothing else. -/
theorem checkWebSocket_spec (p : PipelineHealthMonitor) :
    p.checkWebSocket.pipelineHealth =
        (if p.wsConnected = false ∧ p.pipelineHealth = "ready" then "server_disconnected" else p.pipelineHealth) ∧
      p.checkWebSocket.capture = p.capture ∧ p.checkWebSocket.orchestrator.state = p.orchestrator.state ∧
      SameElsewhere p p.checkWebSocket := by
  unfold checkWebSocket
  split
  · exact ⟨rfl, rfl, rfl, rfl, rfl, rfl, rfl⟩
  · exact ⟨rfl, rfl, rfl, rfl, rfl, rfl, rfl⟩

/-- The second check starts a capture that is down; one that cannot be started ends the session and is reported as
"mic_offline". -/
theorem checkCapture_spec (a : CheckOutcome) (p : PipelineHealthMonitor) :
    (checkCapture a.capture (true, p)).1 = p.captureUp a ∧
      (checkCapture a.capture (true, p)).2.pipelineHealth = (if p.captureUp a then p.pipelineHealth else "mic_offline") ∧
      (checkCapture a.capture (true, p)).2.capture.running = p.captureUp a ∧
      (checkCapture a.capture (true, p)).2.orchestrator.state =
        (if p.captureUp a then p.orchestrator.state else .idle) ∧
      SameElsewhere p (checkCapture a.capture (true, p)).2 := by
  cases hrun : p.capture.running
  · obtain ⟨hcap, hhealth, hstate, hsame⟩ := afterCapture_start a.capture
      (p.appendLog "[WARN] Health: microphone capture stopped — attempting restart")
    have hup : (p.capture.start a.capture).1.running = p.captureUp a := by
      rw [PairionAudioCapture.running_start a.capture hrun, captureUp, hrun, Bool.false_or]
    simp only [checkCapture, hrun, Bool.false_eq_true, if_false]
    rw [show (p.appendLog "[WARN] Health: microphone capture stopped — attempting restart").capture = p.capture from rfl,
      PairionAudioCapture.stop_of_not_running hrun] at *
    rw [hup] at hstate
    revert hcap hhealth hstate hsame
    generalize afterCapture (p.capture.start a.capture) _ = q
    intro hcap hhealth hstate hsame
    have hrunq : q.capture.running = p.captureUp a := by rw [hcap, hup]
    rw [hrunq]
    cases hb : p.captureUp a <;> rw [hb] at hstate hrunq
    · exact ⟨rfl, rfl, hrunq, hstate, hsame.1, hsame.2, hsame.3, hsame.4⟩
    · exact ⟨rfl, hhealth, hrunq, hstate, hsame.1, hsame.2, hsame.3, hsame.4⟩
  · have hup : p.captureUp a = true := by simp [captureUp, hrun]
    rw [checkCapture, if_pos hrun, hup]
    exact ⟨rfl, rfl, hrun, rfl, rfl, rfl, rfl, rfl⟩

/-- The second part of a check of a thread: what its restart leaves. -/
theorem checkEncoderThread_spec (starts : Bool) (r : Bool × PipelineHealthMonitor) :
    (checkEncoderThread starts r).1 = (r.1 && r.2.encoderThread) ∧
      (checkEncoderThread starts r).2.pipelineHealth =
        (if r.2.encoderThread || starts then r.2.pipelineHealth else "pipeline_error") ∧
      (checkEncoderThread starts r).2.capture = r.2.capture ∧
      (checkEncoderThread starts r).2.orchestrator.state = r.2.orchestrator.state ∧
      (checkEncoderThread starts r).2.wsConnected = r.2.wsConnected ∧
      (checkEncoderThread starts r).2.inferenceThread = r.2.inferenceThread ∧
      (checkEncoderThread starts r).2.frameTimeout = r.2.frameTimeout := by
  rw [checkEncoderThread]
  cases h : r.2.encoderThread
  · cases starts <;> exact ⟨(Bool.and_false _).symm, rfl, rfl, rfl, rfl, rfl, rfl⟩
  · exact ⟨(Bool.and_true _).symm, rfl, rfl, rfl, rfl, rfl, rfl⟩

/-- The third check starts the inference thread, and reports "wake_failed" if it does not run. -/
theorem checkInferenceThread_spec (starts : Bool) (r : Bool × PipelineHealthMonitor) :
    (checkInferenceThread starts r).1 = (r.1 && r.2.inferenceThread) ∧
      (checkInferenceThread starts r).2.pipelineHealth =
        (if r.2.inferenceThread || starts then r.2.pipelineHealth else "wake_failed") ∧
      (checkInferenceThread starts r).2.capture = r.2.capture ∧
      (checkInferenceThread starts r).2.orchestrator.state = r.2.orchestrator.state ∧
      (checkInferenceThread starts r).2.wsConnected = r.2.wsConnected ∧
      (checkInferenceThread starts r).2.frameTimeout = r.2.frameTimeout := by
  rw [checkInferenceThread]
  cases h : r.2.inferenceThread
  · cases starts <;> exact ⟨(Bool.and_false _).symm, rfl, rfl, rfl, rfl, rfl⟩
  · exact ⟨(Bool.and_true _).symm, rfl, rfl, rfl, rfl, rfl⟩

/-- The fourth check reports "mic_offline" if no frame came within its time. -/
theorem checkFrameFlow_spec (r : Bool × PipelineHealthMonitor) :
    (checkFrameFlow r).1 = (r.1 && !r.2.frameTimeout) ∧
      (checkFrameFlow r).2.pipelineHealth = (if r.2.frameTimeout then "mic_offline" else r.2.pipelineHealth) ∧
      (checkFrameFlow r).2.capture = r.2.capture ∧
      (checkFrameFlow r).2.orchestrator.state = r.2.orchestrator.state ∧
      (checkFrameFlow r).2.wsConnected = r.2.wsConnected ∧
      (checkFrameFlow r).2.frameTimeout = r.2.frameTimeout := by
  rw [checkFrameFlow]
  cases h : r.2.frameTimeout
  · exact ⟨(Bool.and_true _).symm, rfl, rfl, rfl, rfl, h⟩
  · exact ⟨(Bool.and_false _).symm, rfl, rfl, rfl, rfl, h⟩

/-- At the end "ready" is restored where everything is well and the health says one of the recoverable failures. -/
theorem recover_spec (r : Bool × PipelineHealthMonitor) :
    (recover r).pipelineHealth = (if r.1 ∧ r.2.pipelineHealth ∈ recoverable then "ready" else r.2.pipelineHealth) ∧
      (recover r).capture = r.2.capture ∧ (recover r).orchestrator.state = r.2.orchestrator.state ∧
      (recover r).wsConnected = r.2.wsConnected ∧ (recover r).frameTimeout = r.2.frameTimeout := by
  unfold recover
  split
  · exact ⟨rfl, rfl, rfl, rfl, rfl⟩
  · exact ⟨rfl, rfl, rfl, rfl, rfl⟩

/-! ## The pass -/

/-- The health that the five checks of a pass leave, the last one to set it first. -/
def healthFound (a : CheckOutcome) (p : PipelineHealthMonitor) : String :=
  if p.frameTimeout then "mic_offline"
  else if p.inferenceThread || a.inferenceStarts then
    if p.encoderThread || a.encoderStarts then
      if p.captureUp a then
        if p.wsConnected = false ∧ p.pipelineHealth = "ready" then "server_disconnected" else p.pipelineHealth
      else "mic_offline"
    else "pipeline_error"
  else "wake_failed"

/-- The whole check in one: the health that it leaves, whether the capture runs, and that a session without capture is
ended. -/
theorem performHealthCheck_spec (a : CheckOutcome) (p : PipelineHealthMonitor) :
    (p.performHealthCheck a).pipelineHealth =
        (if p.healthy a ∧ p.healthFound a ∈ recoverable then "ready" else p.healthFound a) ∧
      (p.performHealthCheck a).capture.running = p.captureUp a ∧
      (p.performHealthCheck a).orchestrator.state = (if p.captureUp a then p.orchestrator.state else .idle) ∧
      (p.performHealthCheck a).wsConnected = p.wsConnected ∧
      (p.performHealthCheck a).frameTimeout = p.frameTimeout := by
  obtain ⟨hh1, hc1, hs1, e1⟩ := checkWebSocket_spec p
  have hup : p.checkWebSocket.captureUp a = p.captureUp a := by rw [captureUp, hc1, captureUp]
  obtain ⟨hv2, hh2, hc2, hs2, e2⟩ := checkCapture_spec a p.checkWebSocket
  obtain ⟨hv3, hh3, hc3, hs3, hw3, hi3, hf3⟩ :=
    checkEncoderThread_spec a.encoderStarts (checkCapture a.capture (true, p.checkWebSocket))
  obtain ⟨hv4, hh4, hc4, hs4, hw4, hf4⟩ := checkInferenceThread_spec a.inferenceStarts
    (checkEncoderThread a.encoderStarts (checkCapture a.capture (true, p.checkWebSocket)))
  obtain ⟨hv5, hh5, hc5, hs5, hw5, hf5⟩ := checkFrameFlow_spec (checkInferenceThread a.inferenceStarts
    (checkEncoderThread a.encoderStarts (checkCapture a.capture (true, p.checkWebSocket))))
  obtain ⟨hh6, hc6, hs6, hw6, hf6⟩ := recover_spec (checkFrameFlow (checkInferenceThread a.inferenceStarts
    (checkEncoderThread a.encoderStarts (checkCapture a.capture (true, p.checkWebSocket)))))
  have hverdict : (checkFrameFlow (checkInferenceThread a.inferenceStarts
      (checkEncoderThread a.encoderStarts (checkCapture a.capture (true, p.checkWebSocket))))).1 = p.healthy a := by
    rw [hv5, hv4, hv3, hv2, hi3, hf4, hf3, e2.3, e2.2, e2.4, e1.3, e1.2, e1.4, hup, healthy]
  have hfound : (checkFrameFlow (checkInferenceThread a.inferenceStarts
      (checkEncoderThread a.encoderStarts (checkCapture a.capture (true, p.checkWebSocket))))).2.pipelineHealth =
      p.healthFound a := by
    rw [hh5, hh4, hh3, hh2, hh1, hi3, hf4, hf3, e2.3, e2.2, e2.4, e1.3, e1.2, e1.4, hup, healthFound]
  refine ⟨?_, ?_, ?_, ?_, ?_⟩
  · rw [performHealthCheck, hh6, hverdict, hfound]
  · rw [performHealthCheck, hc6, hc5, hc4, hc3, hc2, hup]
  · rw [performHealthCheck, hs6, hs5, hs4, hs3, hs2, hup, hs1]
  · rw [performHealthCheck, hw6, hw5, hw4, hw3, e2.1, e1.1]
  · rw [performHealthCheck, hf6, hf5, hf4, hf3, e2.4, e1.4]

/-- The pass finds nothing that is down and that it cannot bring up: no timeout, the capture up, and each thread running
or started. -/
def brought (a : CheckOutcome) (p : PipelineHealthMonitor) : Bool :=
  p.captureUp a && (p.encoderThread || a.encoderStarts) && (p.inferenceThread || a.inferenceStarts) && !p.frameTimeout

/-- What is found healthy has been brought up. -/
theorem brought_of_healthy {a : CheckOutcome} {p : PipelineHealthMonitor} (h : p.healthy a = true) :
    p.brought a = true := by
  simp only [healthy, Bool.and_eq_true] at h
  simp [brought, h]

/-- Where everything came up, only the connection can change the health before the recovery. -/
theorem healthFound_of_brought {a : CheckOutcome} {p : PipelineHealthMonitor} (h : p.brought a = true) :
    p.healthFound a =
      if p.wsConnected = false ∧ p.pipelineHealth = "ready" then "server_disconnected" else p.pipelineHealth := by
  simp only [brought, Bool.and_eq_true, Bool.not_eq_true'] at h
  obtain ⟨⟨⟨hcapture, hencoder⟩, hinference⟩, htimeout⟩ := h
  simp only [healthFound, htimeout, hinference, hencoder, hcapture, Bool.false_eq_true, if_false, if_true]

/-- A pass that finds something it cannot bring up ends with a health that says so. -/
theorem healthFound_of_not_brought {a : CheckOutcome} {p : PipelineHealthMonitor} (h : p.brought a = false) :
    p.healthFound a ∈ recoverable := by
  unfold healthFound
  split
  · decide
  · rename_i htimeout
    split
    · rename_i hinference
      split
      · rename_i hencoder
        split
        · rename_i hcapture
          simp [brought, htimeout, hinference, hencoder, hcapture] at h
        · decide
      · decide
    · decide

/-- "ready" is no failure to recover from. -/
theorem ready_not_mem_recoverable : "ready" ∉ recoverable := by decide

/-- A pass leaves "ready" in two ways: it finds everything running and the health is one it resets, or the health is
"ready" with the socket up, and whatever is down comes up in the pass. -/
theorem performHealthCheck_ready (a : CheckOutcome) (p : PipelineHealthMonitor) :
    (p.performHealthCheck a).pipelineHealth = "ready" ↔
      (p.healthy a = true ∧ (p.pipelineHealth = "ready" ∨ p.pipelineHealth ∈ recoverable)) ∨
        (p.brought a = true ∧ p.wsConnected = true ∧ p.pipelineHealth = "ready") := by
  rw [(performHealthCheck_spec a p).1]
  cases hb : p.brought a
  · have hh : p.healthy a = false := by
      rw [← Bool.not_eq_true]
      intro hh
      rw [brought_of_healthy hh] at hb
      cases hb
    have hne : p.healthFound a ≠ "ready" := fun he => ready_not_mem_recoverable (he ▸ healthFound_of_not_brought hb)
    simp [hh, hne]
  · rw [healthFound_of_brought hb]
    have hsd : "server_disconnected" ∈ recoverable := by decide
    by_cases hr : p.pipelineHealth = "ready"
    · cases hw : p.wsConnected <;> cases p.healthy a <;> simp [hr, hsd, ready_not_mem_recoverable]
    · cases p.healthy a <;> simp [hr]

/-! ## Faults -/

/-- An event that parks the orchestrator: one of its own, or an error of the capture (a start or a restart that opens
nothing, or the loss of the device). -/
def faults (p : PipelineHealthMonitor) : Event → Bool
  | .orchestrator e => e.parks
  | .captureStart outcome => !p.capture.running && p.capture.ownsSource && !outcome.opens
  | .captureConfigure _ _ outcome => p.capture.running && p.capture.ownsSource && !outcome.opens
  | .audioSourceStateChanged stopped error =>
    p.capture.running && stopped && p.capture.audioSource.isSome && error != 0
  | .performHealthCheck a => !p.captureUp a
  | .captureStop | .audioDataReady _ | .encoderThread _ | .inferenceThread _ | .setPipelineHealth _ => false

/-- An event that makes an orchestrator in Idle listen. -/
def Event.resumes : Event → Bool
  | .orchestrator e => e.resumes
  | _ => false

def isError : CaptureSignal → Bool
  | .captureError _ => true
  | .audioFrameAvailable _ => false

/-- Of the signals of a capture, its errors park the orchestrator and its frames do not touch it. -/
theorem state_afterCapture (r : PairionAudioCapture × List CaptureSignal) (p : PipelineHealthMonitor) :
    (p.afterCapture r).orchestrator.state = if r.2.any isError then .idle else p.orchestrator.state := by
  have hfold (signals : List CaptureSignal) (q : PipelineHealthMonitor) :
      (signals.foldl onCaptureSignal q).orchestrator.state =
        if signals.any isError then .idle else q.orchestrator.state := by
    induction signals generalizing q with
    | nil => rfl
    | cons signal signals ih =>
      rw [List.foldl_cons, ih, List.any_cons]
      cases signal with
      | audioFrameAvailable pcm => rfl
      | captureError reason =>
        rw [(onCaptureError_spec reason q).1]
        simp [isError]
  exact hfold r.2 _

/-- A start reports an error exactly when it cannot open its source. -/
theorem start_isError (outcome : StartOutcome) (c : PairionAudioCapture) :
    (c.start outcome).2.any isError = (!c.running && c.ownsSource && !outcome.opens) := by
  cases hr : c.running <;> cases hs : c.ownsSource <;> cases outcome <;>
    simp [PairionAudioCapture.start, PairionAudioCapture.attach, StartOutcome.opens, isError, hr, hs]

/-- A change of the device reports an error exactly when a running capture cannot be started again. -/
theorem configure_isError (deviceId : String) (sampleRate : Int) (outcome : StartOutcome) (c : PairionAudioCapture) :
    (c.configure deviceId sampleRate outcome).2.any isError = (c.running && c.ownsSource && !outcome.opens) := by
  cases hr : c.running
  · simp [PairionAudioCapture.configure, hr]
  · simp only [PairionAudioCapture.configure, hr, if_true, start_isError, Bool.true_and]
    simp only [PairionAudioCapture.stop, if_true]
    split <;> simp

/-- Audio that comes is no error. -/
theorem onAudioDataReady_isError (data : Bytes) (c : PairionAudioCapture) :
    (c.onAudioDataReady data).2.any isError = false := by
  unfold PairionAudioCapture.onAudioDataReady
  split
  · rfl
  · simp [isError]

/-- A source that stops on its own with an error is reported, and no other change of its state. -/
theorem onAudioSourceStateChanged_isError (stopped : Bool) (error : Nat) (c : PairionAudioCapture) :
    (c.onAudioSourceStateChanged stopped error).2.any isError =
      (c.running && stopped && c.audioSource.isSome && error != 0) := by
  cases hr : c.running <;> cases stopped <;> cases ha : c.audioSource <;> by_cases he : error = 0 <;>
    simp [PairionAudioCapture.onAudioSourceStateChanged, isError, hr, ha, he]

/-- A thread that ends leaves the state of the session. -/
theorem state_onThreadFinished (entry : String) (wasRunning running : Bool) (p : PipelineHealthMonitor) :
    (p.onThreadFinished entry wasRunning running).orchestrator.state = p.orchestrator.state := by
  unfold onThreadFinished
  split <;> rfl

/-- An event of the session changes its state as the orchestrator says. -/
theorem state_onOrchestratorEvent (env : Env) (p : PipelineHealthMonitor) (e : AudioSessionOrchestrator.Event) :
    (p.onOrchestratorEvent env e).orchestrator.state = (p.orchestrator.step env e).state := by
  cases e <;> rfl

/-- A state that may be reset is idle if it was reset or was idle before. -/
theorem ite_idle_iff (b : Bool) (s : PipelineState) :
    (if b = true then PipelineState.idle else s) = .idle ↔ b = true ∨ s = .idle := by
  cases b <;> simp

/-- The orchestrator is in Idle exactly when a fault parked it and nothing has made it listen since. -/
theorem state_idle_step (env : Env) (p : PipelineHealthMonitor) (e : Event) :
    (step env p e).orchestrator.state = .idle ↔
      p.faults e = true ∨ (p.orchestrator.state = .idle ∧ e.resumes = false) := by
  cases e with
  | orchestrator e =>
    rw [step, state_onOrchestratorEvent]
    exact AudioSessionOrchestrator.state_idle_step env p.orchestrator e
  | captureStart outcome =>
    rw [step, state_afterCapture, start_isError, ite_idle_iff]
    simp [faults, Event.resumes]
  | captureStop => simp [step, faults, Event.resumes]
  | captureConfigure deviceId sampleRate outcome =>
    rw [step, state_afterCapture, configure_isError, ite_idle_iff]
    simp [faults, Event.resumes]
  | audioDataReady data =>
    rw [step, state_afterCapture, onAudioDataReady_isError]
    simp [faults, Event.resumes]
  | audioSourceStateChanged stopped error =>
    rw [step, state_afterCapture, onAudioSourceStateChanged_isError, ite_idle_iff]
    simp [faults, Event.resumes]
  | encoderThread running =>
    rw [step, state_onThreadFinished]
    simp [faults, Event.resumes]
  | inferenceThread running =>
    rw [step, state_onThreadFinished]
    simp [faults, Event.resumes]
  | setPipelineHealth health => simp [step, faults, Event.resumes, setPipelineHealth, updateConnState]
  | performHealthCheck a =>
    rw [step, (performHealthCheck_spec a p).2.2.1]
    cases hup : p.captureUp a <;> simp [faults, Event.resumes, hup]

/-! ## The capture -/

/-- What is connected to the capture's signals leaves the capture. -/
theorem capture_onCaptureSignal (p : PipelineHealthMonitor) (signal : CaptureSignal) :
    (p.onCaptureSignal signal).capture = p.capture := by
  cases signal <;> rfl

/-- Several of its signals leave the capture as well. -/
theorem capture_foldl_onCaptureSignal (signals : List CaptureSignal) (p : PipelineHealthMonitor) :
    (signals.foldl onCaptureSignal p).capture = p.capture := by
  induction signals generalizing p with
  | nil => rfl
  | cons signal signals ih => rw [List.foldl_cons, ih, capture_onCaptureSignal]

/-- The capture after its check is the restarted one. -/
theorem capture_checkCapture (outcome : StartOutcome) (p : PipelineHealthMonitor) :
    (checkCapture outcome (true, p)).2.capture = (p.capture.restart outcome).1 := by
  unfold checkCapture PairionAudioCapture.restart
  cases p.capture.running with
  | true => rfl
  | false =>
    have hcapture := capture_foldl_onCaptureSignal (p.capture.stop.start outcome).2
      { p.appendLog "[WARN] Health: microphone capture stopped — attempting restart" with
        capture := (p.capture.stop.start outcome).1 }
    simp only [Bool.false_eq_true, if_false]
    split <;> exact hcapture

/-- To the capture, a pass is a restart. -/
theorem capture_performHealthCheck (a : CheckOutcome) (p : PipelineHealthMonitor) :
    (p.performHealthCheck a).capture = (p.capture.restart a.capture).1 := by
  rw [performHealthCheck, (recover_spec _).2.1, (checkFrameFlow_spec _).2.2.1, (checkInferenceThread_spec _ _).2.2.1,
    (checkEncoderThread_spec _ _).2.2.1, capture_checkCapture, (checkWebSocket_spec p).2.1]

end PipelineHealthMonitor

end PairionClient
