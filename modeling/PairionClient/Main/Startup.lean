import PairionClient.Core.ModelDownloader
import PairionClient.State.ConnectionState

/-!
# The start of the program

`main.cpp`: the pipeline is started when the microphone permission is granted and the models are ready. Every
`sessionOpened` runs a check of the models, and every `allModelsReady` and every permission tries to start the pipeline.
What the system answers to a start (whether the models load, whether the threads run) is an argument of the event that
leads to one. A `Pipeline` is one set of wake detector, VAD, playback and orchestrator, connected to the capture and to
the WebSocket client.

`recentLogs` holds what `main` appends itself. The lines that the callback of the installed logger appends, one for each
message that is logged meanwhile, are left out here.
-/

namespace PairionClient

/-- What the system answers to `initAudioPipeline`: the error of loading the models, or whether each thread starts. -/
inductive InitOutcome where
  | loadFailed (what : String)
  | loaded (inferenceStarts encoderStarts : Bool)
  deriving DecidableEq, Repr

/-- The objects of one `initAudioPipeline`, and whether it got to its end. -/
structure Pipeline where
  started : Bool
  deriving DecidableEq, Repr

structure Startup where
  /-- `requestPermission` has not called back. -/
  permissionPending : Bool := true
  micPermissionGranted : Bool := false
  modelsReady : Bool := false
  downloader : ModelDownloader
  pipelines : List Pipeline := []
  /-- The `retryCount` of each retry whose timer runs. -/
  retries : List Nat := []
  inferenceThread : Bool := false
  encoderThread : Bool := false
  connState : ConnectionState := {}

namespace Startup

variable (M : ModelStore)

def appendLog (entry : String) (s : Startup) : Startup := { s with connState := s.connState.appendLog entry }

def setPipelineHealth (health : String) (s : Startup) : Startup :=
  { s with connState := s.connState.setPipelineHealth health }

/-- A thread that does not run takes the pipeline offline. -/
def threadFailed (thread : String) (s : Startup) : Startup :=
  (s.appendLog ("[CRITICAL] " ++ thread ++ " thread failed to start — microphone pipeline offline. Restart the application."))
    |>.setPipelineHealth "pipeline_error"

/-- `initAudioPipeline`. Its objects are connected before the threads are started, and stay connected when one does not
run. -/
def initAudioPipeline (retryCount : Nat) (outcome : InitOutcome) (s : Startup) : Startup :=
  match outcome with
  | .loadFailed what =>
    let s := s.appendLog ("[ERROR] Failed to load ONNX models: " ++ what)
    if retryCount > 0 then
      { s.appendLog ("[INFO] Retrying ONNX model load in 1 second (" ++ toString retryCount ++ " attempts left)...") with
        retries := s.retries ++ [retryCount - 1] }
    else
      (s.appendLog "[CRITICAL] ONNX model load failed after all retries. Delete the model cache and restart.")
        |>.setPipelineHealth "models_failed"
  | .loaded inferenceStarts encoderStarts =>
    let s := { s with inferenceThread := s.inferenceThread || inferenceStarts }
    if s.inferenceThread = false then
      { s.threadFailed "Inference" with pipelines := s.pipelines ++ [⟨false⟩] }
    else
      let s := { s with encoderThread := s.encoderThread || encoderStarts }
      if s.encoderThread = false then { s.threadFailed "Encoder" with pipelines := s.pipelines ++ [⟨false⟩] }
      else { s.setPipelineHealth "ready" with pipelines := s.pipelines ++ [⟨true⟩] }

def tryStartPipeline (outcome : InitOutcome) (s : Startup) : Startup :=
  if s.micPermissionGranted ∧ s.modelsReady then s.initAudioPipeline 3 outcome else s

def handlePermission (granted : Bool) (outcome : InitOutcome) (s : Startup) : Startup :=
  if granted then
    { s.appendLog "[INFO] Microphone permission granted" with micPermissionGranted := true }.tryStartPipeline outcome
  else
    (s.appendLog
      "[WARN] Microphone access denied. Grant access in System Settings > Privacy & Security > Microphone.")
      |>.setPipelineHealth "mic_offline"

/-- What `main` connects to the downloader's signals. -/
def onDownloaderSignal (outcome : InitOutcome) (s : Startup) : DownloaderSignal → Startup
  | .allModelsReady => { s with modelsReady := true }.setPipelineHealth "initializing" |>.tryStartPipeline outcome
  | .downloadError msg => s.appendLog ("[ERROR] Model download: " ++ msg)
  | .downloadProgress _ => s

/-- The downloader after one of its slots, with the signals of the slot delivered. -/
def afterDownloader (outcome : InitOutcome) (r : ModelDownloader × List DownloaderSignal) (s : Startup) : Startup :=
  r.2.foldl (onDownloaderSignal outcome) { s with downloader := r.1 }

/-! ## Events -/

/-- What can happen in `main`; each event that can lead to a start has the answer to it. -/
inductive Event where
  | permission (granted : Bool) (outcome : InitOutcome)
  | sessionOpened (outcome : InitOutcome)
  | replyProgress (id : Nat) (received total : Int)
  | replyFinished (id : Nat) (result : Except String Bytes) (writable : Bool) (outcome : InitOutcome)
  | retryTimer (i : Nat) (outcome : InitOutcome)

def step (s : Startup) : Event → Startup
  | .permission granted outcome =>
    if s.permissionPending then { s with permissionPending := false }.handlePermission granted outcome else s
  | .sessionOpened outcome =>
    (s.setPipelineHealth "models_loading").afterDownloader outcome (s.downloader.checkAndDownload M)
  | .replyProgress id received total =>
    -- a progress signal leads to no start, so no answer to one is needed
    s.afterDownloader (.loadFailed "") (s.downloader.step M (.replyProgress id received total))
  | .replyFinished id result writable outcome =>
    s.afterDownloader outcome (s.downloader.step M (.replyFinished id result writable))
  | .retryTimer i outcome =>
    match s.retries[i]? with
    | none => s
    | some retryCount => { s with retries := s.retries.eraseIdx i }.initAudioPipeline retryCount outcome

end Startup

end PairionClient
