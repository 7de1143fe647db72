import PairionClient.Core.Constants
import PairionClient.Lib.Blocks

/-!
# Microphone capture

`audio/pairion_audio_capture.cpp`: the device's bytes are cut into frames of 640. What the audio system answers to a start
is an argument of `start`: the format is refused, the source does not start, or it opens a device. A source and its device
have one number.
-/

namespace PairionClient

/-- A frame of 20 ms. -/
abbrev PcmFrame : Type := { pcm : Bytes // pcm.length = kPcmFrameBytes }

/-- What capture emits. -/
inductive CaptureSignal where
  | audioFrameAvailable (pcm20ms : Bytes)
  | captureError (reason : String)
  deriving DecidableEq, Repr

/-- The audio system's answer to a start with the configured device and rate. -/
inductive StartOutcome where
  | formatNotSupported (description : String)
  | failed (source : Nat)
  | opened (source : Nat)
  deriving DecidableEq, Repr

structure PairionAudioCapture where
  ownsSource : Bool := true
  audioSource : Option Nat := none
  ioDevice : Option Nat := none
  /-- The devices whose `readyRead` is connected to `onAudioDataReady`. -/
  connected : List Nat := []
  accumulator : Bytes := []
  running : Bool := false
  configuredDeviceId : String := ""
  configuredSampleRate : Int := 16000
  deriving DecidableEq, Repr

namespace PairionAudioCapture

/-- The two constructors: with a source of its own, or on a device that is given. -/
def create (device : Option Nat) : PairionAudioCapture := { ownsSource := device.isNone, ioDevice := device }

/-- The common end of `start`: listen to the device and run. -/
def attach (c : PairionAudioCapture) : PairionAudioCapture :=
  { c with connected := c.connected ++ c.ioDevice.toList, running := true }

def start (outcome : StartOutcome) (c : PairionAudioCapture) : PairionAudioCapture × List CaptureSignal :=
  if c.running then (c, [])
  else if c.ownsSource then
    match outcome with
    | .formatNotSupported description =>
      (c, [.captureError ("Audio format not supported by device: " ++ description)])
    | .failed source =>
      ({ c with audioSource := some source, ioDevice := none }, [.captureError "Failed to start audio source"])
    | .opened source => (attach { c with audioSource := some source, ioDevice := some source }, [])
  else (attach c, [])

def stop (c : PairionAudioCapture) : PairionAudioCapture :=
  if c.running then
    let c := { c with
      running := false, connected := c.connected.filter fun d => some d ≠ c.ioDevice, accumulator := [] }
    if c.ownsSource ∧ c.audioSource ≠ none then { c with audioSource := none, ioDevice := none } else c
  else c

/-- Set the device and the rate, and restart a capture that runs. -/
def configure (deviceId : String) (sampleRate : Int) (outcome : StartOutcome) (c : PairionAudioCapture) :
    PairionAudioCapture × List CaptureSignal :=
  let c := { c with
    configuredDeviceId := deviceId, configuredSampleRate := if sampleRate > 0 then sampleRate else 16000 }
  if c.running then c.stop.start outcome else (c, [])

/-- `readyRead` of a connected device: `data` is what the current device holds. -/
def onAudioDataReady (data : Bytes) (c : PairionAudioCapture) : PairionAudioCapture × List CaptureSignal :=
  if c.ioDevice = none ∨ data = [] then (c, [])
  else
    let r := Blocks.cut kPcmFrameBytes (c.accumulator ++ data)
    ({ c with accumulator := r.2 }, r.1.map .audioFrameAvailable)

/-- The source changes state: `stopped` with a nonzero `error` is the loss of the device. -/
def onAudioSourceStateChanged (stopped : Bool) (error : Nat) (c : PairionAudioCapture) :
    PairionAudioCapture × List CaptureSignal :=
  if c.running ∧ stopped ∧ c.audioSource ≠ none ∧ error ≠ 0 then
    ({ c with running := false },
      [.captureError ("Audio device stopped unexpectedly (error " ++ toString error ++ ")")])
  else (c, [])

/-- What a health check does: a capture that does not run is stopped and started. -/
def restart (outcome : StartOutcome) (c : PairionAudioCapture) : PairionAudioCapture × List CaptureSignal :=
  if c.running then (c, []) else c.stop.start outcome

/-! ## Events -/

/-- The calls the capture takes, the checks of its health, and the signals of its device and its source. -/
inductive Event where
  | start (outcome : StartOutcome)
  | stop
  | configure (deviceId : String) (sampleRate : Int) (outcome : StartOutcome)
  | restart (outcome : StartOutcome)
  | readyRead (device : Nat) (data : Bytes)
  | stateChanged (stopped : Bool) (error : Nat)
  deriving DecidableEq, Repr

/-- A step, and what the capture emits in it. A device that is not connected is not heard. -/
def step (c : PairionAudioCapture) : Event → PairionAudioCapture × List CaptureSignal
  | .start outcome => c.start outcome
  | .stop => (c.stop, [])
  | .configure deviceId sampleRate outcome => c.configure deviceId sampleRate outcome
  | .restart outcome => c.restart outcome
  | .readyRead device data => if device ∈ c.connected then c.onAudioDataReady data else (c, [])
  | .stateChanged stopped error => c.onAudioSourceStateChanged stopped error

end PairionAudioCapture

end PairionClient
