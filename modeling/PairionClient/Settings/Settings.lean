import PairionClient.Core.QSettings
import PairionClient.Lib.Notify

/-!
# The settings

`settings/settings.cpp`: the values are read from the file once, on construction; a setter keeps a new value, writes it to the
file and emits its signal, in this order.
-/

namespace PairionClient

open Notify

structure Settings where
  wakeThreshold : ℚ
  vadSilenceEndMs : Int
  vadThreshold : ℚ
  audioInputDevice : String
  audioSampleRate : Int
  deriving DecidableEq

inductive SettingsSignal where
  | wakeThresholdChanged
  | vadSilenceEndMsChanged
  | vadThresholdChanged
  | audioInputDeviceChanged
  | audioSampleRateChanged
  deriving DecidableEq, Repr

/-- The settings of a program that runs, and the file. -/
structure SettingsStore where
  settings : Settings
  file : QSettings

/-- The `Q_PROPERTY` declarations. -/
inductive SettingKey where
  | wakeThreshold
  | vadSilenceEndMs
  | vadThreshold
  | audioInputDevice
  | audioSampleRate
  deriving DecidableEq, Repr

namespace SettingKey

/-- The type of a property. -/
def Value : SettingKey → Type
  | .wakeThreshold | .vadThreshold => ℚ
  | .vadSilenceEndMs | .audioSampleRate => Int
  | .audioInputDevice => String

instance (k : SettingKey) : DecidableEq k.Value := by
  cases k
  all_goals unfold Value
  all_goals infer_instance

/-- The key in the file. -/
def key : SettingKey → String
  | .wakeThreshold => "wake/threshold"
  | .vadSilenceEndMs => "vad/silence_end_ms"
  | .vadThreshold => "vad/threshold"
  | .audioInputDevice => "audio/input_device"
  | .audioSampleRate => "audio/sample_rate"

def defaultValue : SettingKey → QVariant
  | .wakeThreshold => .double (3 / 10)
  | .vadSilenceEndMs => .int 800
  | .vadThreshold => .double (1 / 2)
  | .audioInputDevice => .string ""
  | .audioSampleRate => .int 16000

/-- READ. -/
def get : (k : SettingKey) → Settings → k.Value
  | .wakeThreshold, s => s.wakeThreshold
  | .vadSilenceEndMs, s => s.vadSilenceEndMs
  | .vadThreshold, s => s.vadThreshold
  | .audioInputDevice, s => s.audioInputDevice
  | .audioSampleRate, s => s.audioSampleRate

def set : (k : SettingKey) → k.Value → Settings → Settings
  | .wakeThreshold, v, s => { s with wakeThreshold := v }
  | .vadSilenceEndMs, v, s => { s with vadSilenceEndMs := v }
  | .vadThreshold, v, s => { s with vadThreshold := v }
  | .audioInputDevice, v, s => { s with audioInputDevice := v }
  | .audioSampleRate, v, s => { s with audioSampleRate := v }

/-- NOTIFY. -/
def notify : SettingKey → SettingsSignal
  | .wakeThreshold => .wakeThresholdChanged
  | .vadSilenceEndMs => .vadSilenceEndMsChanged
  | .vadThreshold => .vadThresholdChanged
  | .audioInputDevice => .audioInputDeviceChanged
  | .audioSampleRate => .audioSampleRateChanged

/-- The value as it is written. -/
def toVariant : (k : SettingKey) → k.Value → QVariant
  | .wakeThreshold, v | .vadThreshold, v => .double v
  | .vadSilenceEndMs, v | .audioSampleRate, v => .int v
  | .audioInputDevice, v => .string v

/-- The value as it is read. -/
def ofVariant (F : SettingsFormat) : (k : SettingKey) → QVariant → k.Value
  | .wakeThreshold, v | .vadThreshold, v => v.toDouble F
  | .vadSilenceEndMs, v | .audioSampleRate, v => v.toInt F
  | .audioInputDevice, v => v.toString F

/-- The value that the file has for a property. -/
def load (F : SettingsFormat) (k : SettingKey) (file : QSettings) : k.Value :=
  k.ofVariant F (file.value k.key k.defaultValue)

end SettingKey

namespace Settings

variable (F : SettingsFormat)

/-- The constructor. -/
def create (s : QSettings) : Settings where
  wakeThreshold := (s.value "wake/threshold" (.double (3 / 10))).toDouble F
  vadSilenceEndMs := (s.value "vad/silence_end_ms" (.int 800)).toInt F
  vadThreshold := (s.value "vad/threshold" (.double (1 / 2))).toDouble F
  audioInputDevice := (s.value "audio/input_device" (.string "")).toString F
  audioSampleRate := (s.value "audio/sample_rate" (.int 16000)).toInt F

/-- The common form of the setters. -/
def assign (k : SettingKey) (v : k.Value) : Program SettingsStore SettingsSignal Unit :=
  setIfDifferent (fun s => k.get s.settings)
    (fun v s => { settings := k.set v s.settings, file := s.file.setValue F k.key (k.toVariant v) }) k.notify v

def setWakeThreshold (v : ℚ) : Program SettingsStore SettingsSignal Unit := assign F .wakeThreshold v

def setVadSilenceEndMs (v : Int) : Program SettingsStore SettingsSignal Unit := assign F .vadSilenceEndMs v

def setVadThreshold (v : ℚ) : Program SettingsStore SettingsSignal Unit := assign F .vadThreshold v

def setAudioInputDevice (v : String) : Program SettingsStore SettingsSignal Unit := assign F .audioInputDevice v

def setAudioSampleRate (v : Int) : Program SettingsStore SettingsSignal Unit := assign F .audioSampleRate v

/-- WRITE. -/
def write : (k : SettingKey) → k.Value → Program SettingsStore SettingsSignal Unit
  | .wakeThreshold => setWakeThreshold F
  | .vadSilenceEndMs => setVadSilenceEndMs F
  | .vadThreshold => setVadThreshold F
  | .audioInputDevice => setAudioInputDevice F
  | .audioSampleRate => setAudioSampleRate F

/-- Every setter is the same assignment with its own key. -/
theorem write_eq (k : SettingKey) (v : k.Value) : write F k v = assign F k v := by
  cases k <;> rfl

/-- What a write leaves, and what it emits. -/
theorem exec_write (k : SettingKey) (v : k.Value) (s : SettingsStore) :
    exec (write F k v) s =
      if k.get s.settings = v then announce s []
      else announce { settings := k.set v s.settings, file := s.file.setValue F k.key (k.toVariant v) } [k.notify] := by
  rw [write_eq, assign, exec_setIfDifferent]

end Settings

namespace SettingKey

variable (F : SettingsFormat)

@[simp] theorem get_create (k : SettingKey) (file : QSettings) : k.get (Settings.create F file) = k.load F file := by
  cases k <;> rfl

@[simp] theorem get_set (k : SettingKey) (v : k.Value) (s : Settings) : k.get (k.set v s) = v := by
  cases k <;> rfl

/-- A setter leaves the other settings. -/
theorem get_set_of_ne {k k' : SettingKey} (h : k' ≠ k) (v : k.Value) (s : Settings) : k'.get (k.set v s) = k'.get s := by
  cases k <;> cases k' <;> first | rfl | exact absurd rfl h

/-- No two settings share a key. -/
theorem key_injective {k k' : SettingKey} (h : k.key = k'.key) : k = k' := by
  revert h
  cases k <;> cases k' <;> decide

/-- Each default is of the type of its property. -/
theorem ofVariant_toVariant_default (k : SettingKey) : k.toVariant (k.ofVariant F k.defaultValue) = k.defaultValue := by
  cases k <;> rfl

/-- A value that is written in a faithful format reads back as itself. -/
theorem ofVariant_reload {F : SettingsFormat} (h : F.Faithful) (k : SettingKey) (v : k.Value) :
    k.ofVariant F (F.reload (k.toVariant v)) = v := by
  cases k
  · exact h.double v
  · exact h.int v
  · exact h.double v
  · exact h.string v
  · exact h.int v

/-- What is written to the file is what it has. -/
theorem load_setValue {F : SettingsFormat} (h : F.Faithful) (k : SettingKey) (v : k.Value) (file : QSettings) :
    k.load F (file.setValue F k.key (k.toVariant v)) = v := by
  rw [load, QSettings.value_setValue, ofVariant_reload h]

/-- A write to another key leaves what a setting loads. -/
theorem load_setValue_of_ne {k : SettingKey} {key : String} (h : k.key ≠ key) (v : QVariant) (file : QSettings) :
    k.load F (file.setValue F key v) = k.load F file := by
  rw [load, QSettings.value_setValue_of_ne F file h, load]

end SettingKey

end PairionClient
