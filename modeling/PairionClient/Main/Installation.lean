import PairionClient.Audio.Capture
import PairionClient.Core.DeviceIdentity
import PairionClient.Main.Application
import PairionClient.Settings.Settings

/-!
# An installation

`main.cpp` over many launches: the settings file outlives the processes, each of which reads it when it starts and writes it
while it runs. Others edit the file at any time. The settings and the microphone are wired as `main` wires them.
-/

namespace PairionClient

open Notify

/-- What a process holds of the file, and what is made from it. -/
structure Process where
  settings : Settings
  identity : DeviceIdentity
  capture : PairionAudioCapture
  application : Application

structure Installation where
  file : QSettings
  process : Option Process := none

/-- The call is one of `configure`, which only `main` makes. -/
def PairionAudioCapture.Event.isConfigure : PairionAudioCapture.Event → Bool
  | .configure _ _ _ => true
  | _ => false

namespace Process

variable (F : SettingsFormat) (E : ApplicationEnv)

/-- The start of a process, and the file after it. -/
def main (newId newToken : UuidText) (disk : String → Option Bytes) (file : QSettings) : Process × QSettings :=
  let settings := Settings.create F file
  let (identity, file) := DeviceIdentity.loadOrCreate F newId newToken file
  -- nothing captures yet, so the configuration opens no device
  let (capture, _) := (PairionAudioCapture.create none).configure settings.audioInputDevice settings.audioSampleRate
    (.failed 0)
  ({ settings, identity, capture, application := Application.main identity.deviceId identity.bearerToken disk }, file)

/-- A property is written, the pipeline and the audio system act on the capture, or something else happens in the process.
-/
inductive Event where
  | write (k : SettingKey) (v : k.Value) (outcome : StartOutcome)
  | capture (e : { e : PairionAudioCapture.Event // e.isConfigure = false })
  | application (e : Application.Event)

/-- What `main` connects to the signals of the settings. -/
def onSettingsChanged (outcome : StartOutcome) : SettingsSignal × SettingsStore → Option PairionAudioCapture.Event
  | (.audioInputDeviceChanged, s) | (.audioSampleRateChanged, s) =>
    some (.configure s.settings.audioInputDevice s.settings.audioSampleRate outcome)
  | _ => none

/-- The write of a property, with the file. -/
def written (k : SettingKey) (v : k.Value) (p : Process) (file : QSettings) : Recorded SettingsStore SettingsSignal :=
  exec (Settings.write F k v) ⟨p.settings, file⟩

/-- The calls that the capture takes in a step. -/
def captureEvents (p : Process) (file : QSettings) : Event → List PairionAudioCapture.Event
  | .write k v outcome => (p.written F k v file).emitted.filterMap (onSettingsChanged outcome)
  | .capture e => [e.1]
  | .application _ => []

def step (p : Process) (file : QSettings) (e : Event) : Process × QSettings :=
  let p' := { p with capture := (p.captureEvents F file e).foldl (fun c e => (c.step e).1) p.capture }
  match e with
  | .write k v _ =>
    let r := p.written F k v file
    ({ p' with settings := r.store.settings }, r.store.file)
  | .capture _ => (p', file)
  | .application e => ({ p' with application := p.application.step E e }, file)

end Process

namespace Installation

variable (F : SettingsFormat) (E : ApplicationEnv)

inductive Event where
  | launch (newId newToken : UuidText) (disk : String → Option Bytes)
  | quit
  | process (e : Process.Event)
  /-- The file is edited from outside: a value is set at a key, or the key is removed. -/
  | edit (key : String) (v : Option QVariant)

def step (s : Installation) : Event → Installation
  | .launch newId newToken disk =>
    match s.process with
    | some _ => s
    | none =>
      let (p, file) := Process.main F newId newToken disk s.file
      ⟨file, some p⟩
  | .quit => { s with process := none }
  | .process e =>
    match s.process with
    | some p =>
      let (p, file) := p.step F E s.file e
      ⟨file, some p⟩
    | none => s
  | .edit key v => { s with file := ⟨Function.update s.file.entries key v⟩ }

end Installation

end PairionClient
