import PairionClient.Core.QSettings

/-!
# The identity of the device

`core/device_identity.cpp`: the id and the token are read from the settings file; one that is not there is made and written.
-/

namespace PairionClient

/-- The text of `QUuid::createUuid`, without braces. -/
abbrev UuidText : Type := { s : String // s.length = 36 }

theorem UuidText.ne_empty (u : UuidText) : u.1 ≠ "" := by
  intro h
  have hlength := u.2
  rw [h] at hlength
  exact absurd hlength (by decide)

structure DeviceIdentity where
  deviceId : String
  bearerToken : String
  deriving DecidableEq, Repr

namespace DeviceIdentity

variable (F : SettingsFormat)

/-- Both are read before either is written; they have keys of their own. -/
def loadOrCreate (newId newToken : UuidText) (settings : QSettings) : DeviceIdentity × QSettings :=
  let deviceId := (settings.value "device/id" .invalid).toString F
  let bearerToken := (settings.value "device/bearerToken" .invalid).toString F
  let (deviceId, settings) :=
    if deviceId = "" then (newId.1, settings.setValue F "device/id" (.string newId.1)) else (deviceId, settings)
  let (bearerToken, settings) :=
    if bearerToken = "" then (newToken.1, settings.setValue F "device/bearerToken" (.string newToken.1))
    else (bearerToken, settings)
  (⟨deviceId, bearerToken⟩, settings)

/-- The text at a key, which is made and written where there is none. -/
def loadOrCreateText (key : String) (createUuid : UuidText) (settings : QSettings) : String × QSettings :=
  let text := (settings.value key .invalid).toString F
  if text = "" then (createUuid.1, settings.setValue F key (.string createUuid.1)) else (text, settings)

/-- The id and the token are loaded in turn: writing the one does not touch the other. -/
theorem loadOrCreate_eq (newId newToken : UuidText) (settings : QSettings) :
    loadOrCreate F newId newToken settings =
      let id := loadOrCreateText F "device/id" newId settings
      let token := loadOrCreateText F "device/bearerToken" newToken id.2
      (⟨id.1, token.1⟩, token.2) := by
  have hne : "device/bearerToken" ≠ "device/id" := by decide
  simp only [loadOrCreate, loadOrCreateText]
  split
  · rw [QSettings.value_setValue_of_ne F settings hne]
  · rfl

/-- The text that the file has at a key. -/
def textAt (key : String) (settings : QSettings) : String := (settings.value key .invalid).toString F

/-- Other keys are as they were. -/
theorem value_loadOrCreateText {key key' : String} (h : key' ≠ key) (createUuid : UuidText) (settings : QSettings)
    (v : QVariant) : (loadOrCreateText F key createUuid settings).2.value key' v = settings.value key' v := by
  simp only [loadOrCreateText]
  split
  · exact QSettings.value_setValue_of_ne F settings h _ v
  · rfl

/-- What is loaded is no empty text, and the file has it then. -/
theorem loadOrCreateText_spec {F : SettingsFormat} (h : F.Faithful) (key : String) (createUuid : UuidText)
    (settings : QSettings) :
    (loadOrCreateText F key createUuid settings).1 ≠ "" ∧
      textAt F key (loadOrCreateText F key createUuid settings).2 = (loadOrCreateText F key createUuid settings).1 := by
  simp only [loadOrCreateText]
  split
  · refine ⟨createUuid.ne_empty, ?_⟩
    rw [textAt, QSettings.value_setValue, h.string]
  · rename_i hne
    exact ⟨hne, rfl⟩

/-- A text that the file has is loaded as it is, and nothing is written. -/
theorem loadOrCreateText_of_ne_empty {key text : String} {settings : QSettings} (h : textAt F key settings = text)
    (hne : text ≠ "") (createUuid : UuidText) : loadOrCreateText F key createUuid settings = (text, settings) := by
  subst h
  exact if_neg hne

end DeviceIdentity

end PairionClient
