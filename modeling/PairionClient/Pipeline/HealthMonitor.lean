import PairionClient.Audio.Capture
import PairionClient.Pipeline.Orchestrator

/-!
# The pipeline health monitor

`pipeline/pipeline_health_monitor.cpp`, over the components it watches: the capture, the two worker threads (running or
not) and the orchestrator, which holds the WebSocket client and the connection state. The capture's signals run the slots
connected to them, those of `main.cpp` included. What the system answers to the restarts of a check is an argument of the
check. The sixth check only logs to the console and is left out.
-/

namespace PairionClient

structure PipelineHealthMonitor where
  capture : PairionAudioCapture := {}
  encoderThread : Bool := false
  inferenceThread : Bool := false
  orchestrator : AudioSessionOrchestrator
  /-- The instant at which `m_lastFrameTimer` was last restarted. -/
  lastFrameTimer : Nat := 0
  frameTimerRunning : Bool := false
  healthChanged : List String := []
  deriving DecidableEq, Repr

/-- What the system answers to the restarts of one check. -/
structure CheckOutcome where
  capture : StartOutcome
  encoderStarts : Bool
  inferenceStarts : Bool
  deriving DecidableEq, Repr

namespace PipelineHealthMonitor

/-- Max silence before mic is flagged. -/
def kFrameTimeoutMs : Nat := 5000

def pipelineHealth (p : PipelineHealthMonitor) : String := p.orchestrator.connState.pipelineHealth

def wsConnected (p : PipelineHealthMonitor) : Bool := p.orchestrator.wsClient.isConnected

def updateConnState (f : ConnectionState → ConnectionState) (p : PipelineHealthMonitor) : PipelineHealthMonitor :=
  { p with orchestrator := { p.orchestrator with connState := f p.orchestrator.connState } }

def appendLog (entry : String) (p : PipelineHealthMonitor) : PipelineHealthMonitor :=
  p.updateConnState (·.appendLog entry)

def setPipelineHealth (health : String) (p : PipelineHealthMonitor) : PipelineHealthMonitor :=
  p.updateConnState (·.setPipelineHealth health)

/-- Set the health and emit `healthChanged`. -/
def changeHealth (health : String) (p : PipelineHealthMonitor) : PipelineHealthMonitor :=
  { p.setPipelineHealth health with healthChanged := p.healthChanged ++ [health] }

/-! ## The slots connected to the components -/

def onAudioFrame (p : PipelineHealthMonitor) : PipelineHealthMonitor :=
  { p with lastFrameTimer := p.orchestrator.now, frameTimerRunning := true }

/-- `onPipelineError`, whose signal `main` logs. -/
def onPipelineError (reason : String) (p : PipelineHealthMonitor) : PipelineHealthMonitor :=
  { p with orchestrator := p.orchestrator.onPipelineError reason }.appendLog ("[ERROR] Pipeline: " ++ reason)

def onCaptureSignal (p : PipelineHealthMonitor) : CaptureSignal → PipelineHealthMonitor
  | .audioFrameAvailable _ => p.onAudioFrame
  | .captureError reason => (p.onPipelineError reason).appendLog ("[ERROR] Microphone: " ++ reason)

/-- The capture after one of its operations, with the signals of the operation delivered. -/
def afterCapture (r : PairionAudioCapture × List CaptureSignal) (p : PipelineHealthMonitor) : PipelineHealthMonitor :=
  r.2.foldl onCaptureSignal { p with capture := r.1 }

/-! ## The health check -/

def checkWebSocket (p : PipelineHealthMonitor) : PipelineHealthMonitor :=
  if p.wsConnected = false ∧ p.pipelineHealth = "ready" then p.changeHealth "server_disconnected" else p

def checkCapture (outcome : StartOutcome) (r : Bool × PipelineHealthMonitor) : Bool × PipelineHealthMonitor :=
  if r.2.capture.running then r
  else
    let p := r.2.appendLog "[WARN] Health: microphone capture stopped — attempting restart"
    let p := p.afterCapture (p.capture.stop.start outcome)
    if p.capture.running then (true, p.appendLog "[INFO] Health: microphone capture restarted")
    else (false, (p.appendLog "[ERROR] Health: microphone capture restart failed").changeHealth "mic_offline")

def checkEncoderThread (starts : Bool) (r : Bool × PipelineHealthMonitor) : Bool × PipelineHealthMonitor :=
  if r.2.encoderThread then r
  else
    let p := r.2.appendLog "[ERROR] Health: encoder thread stopped — attempting restart"
    let p := { p with encoderThread := starts }
    (false, if p.encoderThread then p else p.changeHealth "pipeline_error")

def checkInferenceThread (starts : Bool) (r : Bool × PipelineHealthMonitor) : Bool × PipelineHealthMonitor :=
  if r.2.inferenceThread then r
  else
    let p := r.2.appendLog "[ERROR] Health: inference thread stopped — attempting restart"
    let p := { p with inferenceThread := starts }
    (false, if p.inferenceThread then p else p.changeHealth "wake_failed")

/-- Frames came, and the last of them is too long ago. -/
def frameTimeout (p : PipelineHealthMonitor) : Bool :=
  p.frameTimerRunning && p.orchestrator.now - p.lastFrameTimer > kFrameTimeoutMs

def checkFrameFlow (r : Bool × PipelineHealthMonitor) : Bool × PipelineHealthMonitor :=
  if r.2.frameTimeout then
    (false, (r.2.appendLog "[WARN] Health: no audio frames — microphone may be offline").changeHealth "mic_offline")
  else r

/-- The health values from which a healthy check goes back to "ready". -/
def recoverable : List String := ["mic_offline", "wake_failed", "pipeline_error", "server_disconnected"]

def recover (r : Bool × PipelineHealthMonitor) : PipelineHealthMonitor :=
  if r.1 ∧ r.2.pipelineHealth ∈ recoverable then r.2.changeHealth "ready" else r.2

def performHealthCheck (a : CheckOutcome) (p : PipelineHealthMonitor) : PipelineHealthMonitor :=
  recover (checkFrameFlow (checkInferenceThread a.inferenceStarts (checkEncoderThread a.encoderStarts
    (checkCapture a.capture (true, p.checkWebSocket)))))

/-! ## Events -/

/-- The end of `initAudioPipeline`: start the capture and listening, and report "ready". -/
def startPipeline (outcome : StartOutcome) (p : PipelineHealthMonitor) : PipelineHealthMonitor :=
  let p := p.afterCapture (p.capture.start outcome)
  let p := { p with orchestrator := p.orchestrator.startListening }
  p.setPipelineHealth "ready"

/-- What can happen to the components once the pipeline runs. A thread that stops running has emitted `finished`. -/
inductive Event where
  | orchestrator (e : AudioSessionOrchestrator.Event)
  | captureStart (outcome : StartOutcome)
  | captureStop
  | captureConfigure (deviceId : String) (sampleRate : Int) (outcome : StartOutcome)
  | audioDataReady (data : Bytes)
  | audioSourceStateChanged (stopped : Bool) (error : Nat)
  | encoderThread (running : Bool)
  | inferenceThread (running : Bool)
  | setPipelineHealth (health : String)
  | performHealthCheck (a : CheckOutcome)
  deriving DecidableEq, Repr

/-- The orchestrator's events, with what `main` connects to `pipelineError` and `captureError`. -/
def onOrchestratorEvent (env : Env) (p : PipelineHealthMonitor) : AudioSessionOrchestrator.Event → PipelineHealthMonitor
  | .captureError reason => p.onCaptureSignal (.captureError reason)
  | .encoderError reason => p.onPipelineError reason
  | e => { p with orchestrator := p.orchestrator.step env e }

def onThreadFinished (entry : String) (wasRunning running : Bool) (p : PipelineHealthMonitor) : PipelineHealthMonitor :=
  if wasRunning ∧ running = false then p.appendLog entry else p

def step (env : Env) (p : PipelineHealthMonitor) : Event → PipelineHealthMonitor
  | .orchestrator e => p.onOrchestratorEvent env e
  | .captureStart outcome => p.afterCapture (p.capture.start outcome)
  | .captureStop => { p with capture := p.capture.stop }
  | .captureConfigure deviceId sampleRate outcome => p.afterCapture (p.capture.configure deviceId sampleRate outcome)
  | .audioDataReady data => p.afterCapture (p.capture.onAudioDataReady data)
  | .audioSourceStateChanged stopped error => p.afterCapture (p.capture.onAudioSourceStateChanged stopped error)
  | .encoderThread running =>
    { p with encoderThread := running }.onThreadFinished
      "[CRITICAL] Encoder thread exited — microphone pipeline offline. Restart the application." p.encoderThread running
  | .inferenceThread running =>
    { p with inferenceThread := running }.onThreadFinished
      "[CRITICAL] Inference thread exited — microphone pipeline offline. Restart the application."
      p.inferenceThread running
  | .setPipelineHealth health => p.setPipelineHealth health
  | .performHealthCheck a => p.performHealthCheck a

end PipelineHealthMonitor

end PairionClient
