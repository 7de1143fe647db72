import PairionClient.Lemmas.Capture
import PairionClient.Lib.Run
import PairionClient.Main.Installation

/-!
# The settings in use

While a process runs, the microphone is configured with the device and the rate of the settings, and a microphone that runs
was opened with these: no session outlives a change of the settings.
-/

namespace PairionClient

open Notify Transition

namespace PairionAudioCapture

/-- The device and the rate that the next start asks for. -/
def configuration (c : PairionAudioCapture) : String × Int := (c.configuredDeviceId, c.configuredSampleRate)

@[simp] theorem configuration_start (outcome : StartOutcome) (c : PairionAudioCapture) :
    configuration (c.start outcome).1 = configuration c := by
  unfold start
  split
  · rfl
  · split
    · cases outcome <;> rfl
    · rfl

@[simp] theorem configuration_stop (c : PairionAudioCapture) : configuration c.stop = configuration c := by
  unfold stop
  split
  · dsimp only
    split <;> rfl
  · rfl

@[simp] theorem configuration_configure (deviceId : String) (sampleRate : Int) (outcome : StartOutcome)
    (c : PairionAudioCapture) :
    configuration (c.configure deviceId sampleRate outcome).1 =
      (deviceId, if sampleRate > 0 then sampleRate else 16000) := by
  unfold configure
  dsimp only
  split
  · rw [configuration_start, configuration_stop]
    rfl
  · rfl

/-- Only `configure` changes what a start asks for. -/
theorem configuration_step {e : Event} (he : e.isConfigure = false) (c : PairionAudioCapture) :
    configuration (c.step e).1 = configuration c := by
  cases e with
  | start outcome => exact configuration_start outcome c
  | stop => exact configuration_stop c
  | configure deviceId sampleRate outcome => cases he
  | restart outcome =>
    rw [step, restart]
    split
    · rfl
    · rw [configuration_start, configuration_stop]
  | readyRead device data =>
    rw [step, onAudioDataReady]
    split
    · split <;> rfl
    · rfl
  | stateChanged stopped error =>
    rw [step, onAudioSourceStateChanged]
    split <;> rfl

/-- A capture that runs after a step that starts no session asks for what it asked for before. -/
theorem configuration_of_not_starts {c : PairionAudioCapture} {e : Event} (hstarts : starts c e = false)
    (hrun : (c.step e).1.running = true) : configuration (c.step e).1 = configuration c := by
  cases he : e.isConfigure with
  | false => exact configuration_step he c
  | true =>
    have hbefore := running_of_not_starts hstarts hrun
    cases e with
    | configure deviceId sampleRate outcome => simp [starts, hbefore, hrun] at hstarts
    | _ => cases he

/-- The capture, and what was asked for when its session started. -/
structure Opened where
  capture : PairionAudioCapture
  requested : String × Int

def Opened.step (o : Opened) (e : Event) : Opened where
  capture := (o.capture.step e).1
  requested := if starts o.capture e then configuration (o.capture.step e).1 else o.requested

/-- A capture that runs was started with its configuration. -/
def Opened.Current (o : Opened) : Prop := o.capture.running = true → o.requested = configuration o.capture

/-- A capture that runs with its configuration does so after every event. -/
theorem Opened.current_step (o : Opened) (e : Event) (h : o.Current) : (o.step e).Current := by
  intro hrun
  dsimp only [step] at hrun ⊢
  cases hstarts : starts o.capture e with
  | true => rfl
  | false =>
    rw [configuration_of_not_starts hstarts hrun]
    exact h (running_of_not_starts hstarts hrun)

/-- What is remembered of the opening leaves the capture. -/
theorem Opened.capture_run (o : Opened) (es : List Event) :
    (run step o es).capture = es.foldl (fun c e => (c.step e).1) o.capture := by
  induction es generalizing o with
  | nil => rfl
  | cons e es ih => exact ih (o.step e)

end PairionAudioCapture

open PairionAudioCapture

namespace Settings

/-- The device, and the rate where it is one. -/
def microphone (s : Settings) : String × Int :=
  (s.audioInputDevice, if s.audioSampleRate > 0 then s.audioSampleRate else 16000)

end Settings

namespace Process

variable (F : SettingsFormat) (E : ApplicationEnv)

/-- What the capture takes when a property is written: nothing, unless the write changes what the microphone is to be. -/
theorem captureEvents_write (p : Process) (file : QSettings) (k : SettingKey) (v : k.Value) (outcome : StartOutcome) :
    (p.captureEvents F file (.write k v outcome) = [] ∧
        (p.step F E file (.write k v outcome)).1.settings.microphone = p.settings.microphone) ∨
      p.captureEvents F file (.write k v outcome) =
        [.configure (p.step F E file (.write k v outcome)).1.settings.audioInputDevice
          (p.step F E file (.write k v outcome)).1.settings.audioSampleRate outcome] := by
  simp only [captureEvents, step, written, Settings.exec_write]
  split
  · exact .inl ⟨rfl, rfl⟩
  · cases k with
    | audioInputDevice => exact .inr rfl
    | audioSampleRate => exact .inr rfl
    | _ => exact .inl ⟨rfl, rfl⟩

/-- The configuration of the capture is that of the settings. -/
def Synced (p : Process) : Prop := configuration p.capture = p.settings.microphone

/-- `main` configures the capture with the settings that it has read. -/
theorem synced_main (newId newToken : UuidText) (disk : String → Option Bytes) (file : QSettings) :
    (main F newId newToken disk file).1.Synced := rfl

theorem not_running_main (newId newToken : UuidText) (disk : String → Option Bytes) (file : QSettings) :
    (main F newId newToken disk file).1.capture.running = false := rfl

/-- Every event keeps the configuration that of the settings. -/
theorem synced_step {p : Process} (h : p.Synced) (file : QSettings) (e : Event) : (p.step F E file e).1.Synced := by
  cases e with
  | write k v outcome =>
    rcases captureEvents_write F E p file k v outcome with ⟨hnone, hsame⟩ | hone
    · have hcapture : (p.step F E file (.write k v outcome)).1.capture = p.capture :=
        congrArg (List.foldl _ p.capture) hnone
      rw [Synced, hcapture, hsame]
      exact h
    · have hcapture : (p.step F E file (.write k v outcome)).1.capture = (p.capture.step _).1 :=
        congrArg (List.foldl _ p.capture) hone
      rw [Synced, hcapture]
      exact configuration_configure _ _ outcome p.capture
  | capture e => exact (configuration_step e.2 p.capture).trans h
  | application e => exact h

end Process

namespace Installation

variable (F : SettingsFormat) (E : ApplicationEnv)

/-- An installation, and what was asked for when the session of the microphone started. -/
structure Listening where
  installation : Installation
  requested : String × Int := ("", 0)

def Listening.step (l : Listening) (e : Event) : Listening where
  installation := l.installation.step F E e
  requested :=
    match l.installation.process, e with
    | some p, .process e =>
      (run Opened.step ⟨p.capture, l.requested⟩ (p.captureEvents F l.installation.file e)).requested
    | _, _ => l.requested

/-- Of a process: its microphone is what the settings say, and was opened so where it runs. -/
def Follows (requested : String × Int) (p : Process) : Prop :=
  p.Synced ∧ (Opened.mk p.capture requested).Current

/-- Every event of the installation keeps the microphone following the settings. -/
theorem follows_step {l : Listening} (h : ∀ p ∈ l.installation.process, Follows l.requested p) (e : Event) :
    ∀ p ∈ (l.step F E e).installation.process, Follows (l.step F E e).requested p := by
  intro p' hp'
  rcases hp : l.installation.process with - | p
  · cases e with
    | launch newId newToken disk =>
      simp only [Listening.step, Installation.step, hp, Option.mem_def, Option.some.injEq] at hp'
      subst hp'
      refine ⟨Process.synced_main F newId newToken disk _, fun hrun => ?_⟩
      have hquiet := Process.not_running_main F newId newToken disk l.installation.file
      exact absurd (hquiet.symm.trans hrun) (by decide)
    | _ => simp [Listening.step, Installation.step, hp] at hp'
  · obtain ⟨hsynced, hcurrent⟩ := h p hp
    cases e with
    | quit => simp [Listening.step, Installation.step] at hp'
    | process e =>
      simp only [Listening.step, Installation.step, hp, Option.mem_def, Option.some.injEq] at hp' ⊢
      subst hp'
      refine ⟨Process.synced_step F E hsynced _ e, ?_⟩
      -- the capture of the process is the one that the observer follows
      have hcapture : (p.step F E l.installation.file e).1.capture =
          (run Opened.step ⟨p.capture, l.requested⟩ (p.captureEvents F l.installation.file e)).capture := by
        rw [Opened.capture_run]
        cases e <;> rfl
      rw [hcapture]
      exact inv_run_of_step Opened.Current Opened.current_step _ hcurrent
    | _ =>
      simp only [Listening.step, Installation.step, hp, Option.mem_def, Option.some.injEq] at hp' ⊢
      subst hp'
      exact ⟨hsynced, hcurrent⟩

end Installation

end PairionClient
