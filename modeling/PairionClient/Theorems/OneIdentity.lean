import PairionClient.Main.Installation
import PairionClient.Theorems.Handshake
import PairionClient.Theorems.SettingsPersist

/-!
# One identity

The identity of the device is made once: every later launch reads it from the settings file, and every connection of every
launch is introduced with it.
-/

namespace PairionClient

open Notify Transition

open DeviceIdentity (textAt loadOrCreateText loadOrCreateText_of_ne_empty loadOrCreateText_spec value_loadOrCreateText
  loadOrCreate_eq)

namespace Installation

variable (F : SettingsFormat) (E : ApplicationEnv)

/-- An installation, and what went over the connection of its process. -/
structure Connected where
  installation : Installation
  log : List Application.Entry := []

def Connected.step (c : Connected) (e : Event) : Connected where
  installation := c.installation.step F E e
  log :=
    match c.installation.process, e with
    | none, .launch _ _ _ => []
    | some p, .process (.application e) => (Application.Traced.step E ⟨p.application, c.log⟩ e).log
    | _, _ => c.log

/-- The keys of the identity in the file. -/
def identityKeys : List String := ["device/id", "device/bearerToken"]

/-- The event does not edit the identity in the file. -/
def SparesIdentity : Event → Prop
  | .edit key _ => key ∉ identityKeys
  | _ => True

/-- The file has this identity. -/
def Has (identity : DeviceIdentity) (file : QSettings) : Prop :=
  textAt F "device/id" file = identity.deviceId ∧ textAt F "device/bearerToken" file = identity.bearerToken

/-- A process has this identity, and its connections are introduced with it. -/
structure Identified (identity : DeviceIdentity) (log : List Application.Entry) (p : Process) : Prop where
  held : p.identity = identity
  linked : Application.Linked ⟨p.application, log⟩
  introduced : Application.Introduced identity.deviceId identity.bearerToken ⟨p.application, log⟩

variable {F} {identity : DeviceIdentity} {file file' : QSettings}

/-- The identity in the file is what it has at the keys of the identity. -/
theorem Has.congr (h : Has F identity file) (hsame : ∀ key ∈ identityKeys, ∀ v, file'.value key v = file.value key v) :
    Has F identity file' := by
  have htext : ∀ key ∈ identityKeys, textAt F key file' = textAt F key file := fun key hkey => by
    rw [textAt, hsame key hkey, textAt]
  exact ⟨(htext _ (by decide)).trans h.1, (htext _ (by decide)).trans h.2⟩

/-- An edit that spares the identity leaves it. -/
theorem Has.edit (h : Has F identity file) {key : String} {v : Option QVariant} (hspares : SparesIdentity (.edit key v)) :
    Has F identity ⟨Function.update file.entries key v⟩ := by
  refine h.congr ?_
  intro key' hkey w
  have hne : key' ≠ key := fun heq => hspares (by rwa [← heq])
  simp [QSettings.value, Function.update_of_ne hne]

/-- The settings have keys of their own. -/
theorem Has.written (h : Has F identity file) (k : SettingKey) (v : k.Value) (p : Process) :
    Has F identity (p.written F k v file).store.file := by
  rw [Process.written, Settings.exec_write]
  split
  · exact h
  · refine h.congr fun key hkey w => QSettings.value_setValue_of_ne F file ?_ _ w
    intro heq
    subst heq
    cases k <;> exact absurd hkey (by decide)

/-- The identity that a launch has is in the file then, and is no empty text. -/
theorem has_main (hF : F.Faithful) (newId newToken : UuidText) (disk : String → Option Bytes) (file : QSettings) :
    let r := Process.main F newId newToken disk file
    Has F r.1.identity r.2 ∧ r.1.identity.deviceId ≠ "" ∧ r.1.identity.bearerToken ≠ "" := by
  intro r
  have hkeys : "device/id" ≠ "device/bearerToken" := by decide
  obtain ⟨hid, hidAt⟩ := loadOrCreateText_spec hF "device/id" newId file
  obtain ⟨htoken, htokenAt⟩ := loadOrCreateText_spec hF "device/bearerToken" newToken
    (loadOrCreateText F "device/id" newId file).2
  simp only [r, Process.main, loadOrCreate_eq]
  refine ⟨⟨?_, htokenAt⟩, hid, htoken⟩
  rw [← hidAt, textAt, value_loadOrCreateText F hkeys, textAt]

/-- A launch of an installation that has an identity takes it, and writes nothing. -/
theorem main_of_has (h : Has F identity file) (hid : identity.deviceId ≠ "") (htoken : identity.bearerToken ≠ "")
    (newId newToken : UuidText) (disk : String → Option Bytes) :
    (Process.main F newId newToken disk file).1.identity = identity ∧
      (Process.main F newId newToken disk file).2 = file := by
  have hsame : DeviceIdentity.loadOrCreate F newId newToken file = (identity, file) := by
    simp only [loadOrCreate_eq, loadOrCreateText_of_ne_empty F h.1 hid, loadOrCreateText_of_ne_empty F h.2 htoken]
  simp only [Process.main, hsame, and_self]

/-- A process is identified as it starts. -/
theorem identified_main (newId newToken : UuidText) (disk : String → Option Bytes) (file : QSettings) :
    Identified (Process.main F newId newToken disk file).1.identity [] (Process.main F newId newToken disk file).1 :=
  have h := Application.introduced_launched (Process.main F newId newToken disk file).1.identity.deviceId
    (Process.main F newId newToken disk file).1.identity.bearerToken disk
  ⟨rfl, h.1, h.2⟩

/-- The file has the identity, and so has the process that runs. -/
structure Settled (F : SettingsFormat) (identity : DeviceIdentity) (c : Connected) : Prop where
  file : Has F identity c.installation.file
  process : ∀ p ∈ c.installation.process, Identified identity c.log p

/-- Every event that spares the identity keeps it settled. -/
theorem settled_step {c : Connected} (hid : identity.deviceId ≠ "") (htoken : identity.bearerToken ≠ "")
    (h : Settled F identity c) {e : Event} (he : SparesIdentity e) : Settled F identity (c.step F E e) := by
  obtain ⟨hfile, hprocess⟩ := h
  rcases hp : c.installation.process with - | p
  · cases e with
    | launch newId newToken disk =>
      obtain ⟨hidentity, hsame⟩ := main_of_has hfile hid htoken newId newToken disk
      have hidentified := identified_main (F := F) newId newToken disk c.installation.file
      rw [hidentity] at hidentified
      simp only [Connected.step, step, hp]
      refine ⟨by rw [hsame]; exact hfile, fun p' hp' => ?_⟩
      obtain rfl := Option.some.inj hp'
      exact hidentified
    | edit key v =>
      simp only [Connected.step, step, hp]
      exact ⟨hfile.edit he, by simp⟩
    | quit =>
      simp only [Connected.step, step, hp]
      exact ⟨hfile, by simp⟩
    | process e =>
      simp only [Connected.step, step, hp]
      exact ⟨hfile, by simp [hp]⟩
  · have hidentified := hprocess p hp
    cases e with
    | launch newId newToken disk =>
      simp only [Connected.step, step, hp]
      exact ⟨hfile, hprocess⟩
    | edit key v =>
      simp only [Connected.step, step, hp]
      exact ⟨hfile.edit he, by simpa [hp] using hprocess⟩
    | quit =>
      simp only [Connected.step, step]
      exact ⟨hfile, by simp⟩
    | process e =>
      cases e with
      | write k v outcome =>
        simp only [Connected.step, step, hp, Process.step]
        refine ⟨hfile.written k v p, fun p' hp' => ?_⟩
        obtain rfl := Option.some.inj hp'
        exact ⟨hidentified.held, hidentified.linked, hidentified.introduced⟩
      | capture e =>
        simp only [Connected.step, step, hp, Process.step]
        refine ⟨hfile, fun p' hp' => ?_⟩
        obtain rfl := Option.some.inj hp'
        exact ⟨hidentified.held, hidentified.linked, hidentified.introduced⟩
      | application e =>
        simp only [Connected.step, step, hp, Process.step]
        refine ⟨hfile, fun p' hp' => ?_⟩
        obtain rfl := Option.some.inj hp'
        exact ⟨hidentified.held, Application.linked_step E hidentified.linked e,
          Application.introduced_step E hidentified.linked hidentified.introduced e⟩

/-- The process that runs has this identity; where its socket is up, what went over the connection begins with its
introduction, which is the only one, and else nothing went over it. -/
def Introduces (identity : DeviceIdentity) (c : Connected) : Prop :=
  ∀ p ∈ c.installation.process, p.identity = identity ∧
    (Application.Up p.application.connection.client.socket →
      Application.IntroducedBy identity.deviceId identity.bearerToken c.log) ∧
    (¬Application.Up p.application.connection.client.socket → c.log = [])

/-- A settled identity is the one that introduces every connection. -/
theorem Settled.introduces {c : Connected} (h : Settled F identity c) : Introduces identity c := by
  intro p hp
  obtain ⟨hheld, -, hintroduced⟩ := h.process p hp
  exact ⟨hheld, hintroduced.up, hintroduced.down⟩

/-- From the first launch on, everything is settled. -/
theorem introduces_of_launch (hF : F.Faithful) {es : List Event} (hes : ∀ e ∈ es, SparesIdentity e) (c : Connected)
    (hnone : c.installation.process = none) :
    ∃ identity : DeviceIdentity, identity.deviceId ≠ "" ∧ identity.bearerToken ≠ "" ∧
      Always (Connected.step F E) (Introduces identity) c es := by
  have hnothing (identity : DeviceIdentity) : Introduces identity c := by
    intro p hp
    rw [hnone] at hp
    cases hp
  induction es generalizing c with
  | nil => exact ⟨⟨"-", "-"⟩, by simp, by simp, by simpa using hnothing _⟩
  | cons e es ih =>
    have hrest : ∀ e ∈ es, SparesIdentity e := fun e he => hes e (List.mem_cons_of_mem _ he)
    have hlater (hnone' : (c.step F E e).installation.process = none) :
        ∃ identity : DeviceIdentity, identity.deviceId ≠ "" ∧ identity.bearerToken ≠ "" ∧
          Always (Connected.step F E) (Introduces identity) c (e :: es) := by
      obtain ⟨identity, hid, htoken, halways⟩ := ih hrest (c.step F E e) hnone' fun identity p hp => by
        rw [hnone'] at hp
        cases hp
      exact ⟨identity, hid, htoken, (always_cons _ _ _).2 ⟨hnothing identity, halways⟩⟩
    cases e with
    | launch newId newToken disk =>
      obtain ⟨hhas, hid, htoken⟩ := has_main hF newId newToken disk c.installation.file
      refine ⟨_, hid, htoken, (always_cons _ _ _).2 ⟨hnothing _, ?_⟩⟩
      have hsettled : Settled F (Process.main F newId newToken disk c.installation.file).1.identity
          (c.step F E (.launch newId newToken disk)) := by
        simp only [Connected.step, step, hnone]
        refine ⟨hhas, fun p hp => ?_⟩
        obtain rfl := Option.some.inj hp
        exact identified_main newId newToken disk c.installation.file
      exact Always.of_inv (Settled F _) (fun _ h => h.introduces)
        (fun _ _ h he => settled_step E hid htoken h he) hsettled ((everyStep_iff_forall _ es).2 hrest)
    | quit => exact hlater rfl
    | process e => exact hlater (by simp [Connected.step, step, hnone])
    | edit key v => exact hlater (by simp [Connected.step, step, hnone])

/-- An installation whose identity nobody edits has one identity for good, no part of which is empty: every process that
is ever launched has it, and introduces every connection of its with it, once, before anything else. -/
theorem one_identity (hF : F.Faithful) (file : QSettings) (es : List Event) (hes : ∀ e ∈ es, SparesIdentity e) :
    ∃ identity : DeviceIdentity, identity.deviceId ≠ "" ∧ identity.bearerToken ≠ "" ∧
      Always (Connected.step F E) (Introduces identity) { installation := { file } } es :=
  introduces_of_launch E hF hes _ rfl

/-- Two launches, each of which connects; the second loses the connection and connects again. -/
def connectsAgain : List Event :=
  [.launch someUuid someUuid ModelDownloader.cachedModels, .process (.application (.socket .connected (.loaded true true))),
    .quit, .launch someUuid someUuid ModelDownloader.cachedModels,
    .process (.application (.socket .connected (.loaded true true))),
    .process (.application (.socket .disconnected (.loaded true true))),
    .process (.application (.socket .reconnectTimeout (.loaded true true))),
    .process (.application (.socket .connected (.loaded true true)))]

/-- A process that connects, and a later one that connects again. -/
theorem one_identity_connects_again :
    ∃ identity : DeviceIdentity, identity.deviceId ≠ "" ∧ identity.bearerToken ≠ "" ∧
      Always (Connected.step .propertyList Application.cached) (Introduces identity) { installation := { file := {} } }
        connectsAgain :=
  one_identity Application.cached SettingsFormat.propertyList_faithful {} connectsAgain fun e he => by
    simp only [connectsAgain, List.mem_cons, List.not_mem_nil, or_false] at he
    rcases he with rfl | rfl | rfl | rfl | rfl | rfl | rfl | rfl <;> trivial

end Installation

end PairionClient
