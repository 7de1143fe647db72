import PairionClient.Lib.WriteThrough
import PairionClient.Main.Installation
import PairionClient.Theorems.SessionGate

/-!
# What the settings file remembers

Each property is a write-through copy of its value in the file. The properties are what the file says in every state of a run
exactly when the file is not edited to something else while the program runs; and then the last value that was written, from
QML or by an edit, is what the file has, over any number of launches.
-/

namespace PairionClient

open Notify Transition WriteThrough

namespace Installation

variable (F : SettingsFormat) (E : ApplicationEnv) (k : SettingKey)

/-- A property, and its value in the file. -/
def cell (s : Installation) : Cell k.Value := ⟨k.load F s.file, s.process.map fun p => k.get p.settings⟩

/-- What an event does to the property: a launch loads it, and a write or an edit of its own key writes it. -/
def op : Event → Option (Op k.Value)
  | .launch _ _ _ => some .load
  | .quit => some .drop
  | .process (.write k' v _) => if h : k' = k then some (.put (h ▸ v)) else none
  | .process _ => none
  | .edit key v => if key = k.key then some (.edit (k.ofVariant F (v.getD k.defaultValue))) else none

/-- An edit of the property while a process runs gives it the value that the process holds. -/
def EditsAlike (s : Installation) : Event → Prop
  | .edit key v => key = k.key → ∀ p ∈ s.process, k.get p.settings = k.ofVariant F (v.getD k.defaultValue)
  | _ => True

/-- What happens in a process happens while one runs. -/
def Occurs (s : Installation) : Event → Prop
  | .process _ => s.process.isSome
  | _ => True

variable {F k}

/-- The launch leaves the settings in the file as they are. -/
theorem load_main (newId newToken : UuidText) (disk : String → Option Bytes) (file : QSettings) :
    k.load F (Process.main F newId newToken disk file).2 = k.load F file := by
  have hid : k.key ≠ "device/id" := by cases k <;> decide
  have htoken : k.key ≠ "device/bearerToken" := by cases k <;> decide
  simp only [Process.main, DeviceIdentity.loadOrCreate_eq, SettingKey.load, DeviceIdentity.value_loadOrCreateText F htoken,
    DeviceIdentity.value_loadOrCreateText F hid]

/-- A write of another property leaves this one and its value in the file. -/
theorem written_of_ne {k' : SettingKey} (h : k ≠ k') (v : k'.Value) (p : Process) (file : QSettings) :
    k.get (p.written F k' v file).store.settings = k.get p.settings ∧
      k.load F (p.written F k' v file).store.file = k.load F file := by
  rw [Process.written, Settings.exec_write]
  split
  · exact ⟨rfl, rfl⟩
  · exact ⟨SettingKey.get_set_of_ne h v p.settings,
      SettingKey.load_setValue_of_ne F (fun hkey => h (SettingKey.key_injective hkey)) _ file⟩

/-- A write of the property, as the write-through cell has it. -/
theorem written_self (hF : F.Faithful) (v : k.Value) (p : Process) (file : QSettings) :
    (⟨k.load F (p.written F k v file).store.file, some (k.get (p.written F k v file).store.settings)⟩ : Cell k.Value) =
      Cell.step ⟨k.load F file, some (k.get p.settings)⟩ (.put v) := by
  simp only [Process.written, Settings.exec_write, Cell.step]
  split
  · rfl
  · simp only [announce, SettingKey.load_setValue hF, SettingKey.get_set]

/-- An edit of the file is one of the cell, if it is at the key of the property. -/
theorem cell_edit (s : Installation) (key : String) (v : Option QVariant) :
    cell F k (s.step F E (.edit key v)) = (op F k (.edit key v)).elim (cell F k s) (cell F k s).step := by
  simp only [cell, step, op]
  split
  · rename_i hkey
    subst hkey
    simp [Cell.step, SettingKey.load, QSettings.value]
  · rename_i hkey
    simp [SettingKey.load, QSettings.value, Function.update_of_ne (Ne.symm hkey)]

/-- Each event is one operation of the cell, or none. -/
theorem cell_step (hF : F.Faithful) (s : Installation) (e : Event) :
    cell F k (s.step F E e) = (op F k e).elim (cell F k s) (cell F k s).step := by
  rcases hp : s.process with - | p
  · cases e with
    | launch newId newToken disk =>
      simp only [cell, step, hp, op, Option.elim_some, Cell.step, Option.map_none, Option.map_some, Option.getD_none]
      rw [load_main]
      congr 2
      exact SettingKey.get_create F k s.file
    | quit => simp [cell, step, hp, op, Cell.step]
    | process e =>
      cases e with
      | write k' v outcome =>
        simp only [cell, step, hp, op]
        split
        · rfl
        · rfl
      | _ => simp only [cell, step, hp, op, Option.elim_none]
    | edit key v => exact cell_edit E s key v
  · cases e with
    | launch newId newToken disk => simp [cell, step, hp, op, Cell.step]
    | quit => simp [cell, step, op, Cell.step]
    | process e =>
      cases e with
      | write k' v outcome =>
        simp only [cell, step, hp, op, Process.step, Option.map_some]
        split
        · rename_i hkey
          subst hkey
          exact written_self hF v p s.file
        · rename_i hkey
          obtain ⟨hget, hload⟩ := written_of_ne (F := F) (Ne.symm hkey) v p s.file
          simp only [hget, hload, Option.elim_none]
      | capture e => simp [cell, step, hp, op, Process.step]
      | application e => simp [cell, step, hp, op, Process.step]
    | edit key v => exact cell_edit E s key v

/-- The conditions on the events are those on the operations of the cell. -/
theorem editsAlike_iff (s : Installation) (e : Event) :
    EditsAlike F k s e ↔ ∀ o ∈ op F k e, Cell.Harmless (cell F k s) o := by
  cases e with
  | launch newId newToken disk => simp [EditsAlike, op, Cell.Harmless]
  | quit => simp [EditsAlike, op, Cell.Harmless]
  | process e =>
    cases e with
    | write k' v outcome =>
      simp only [EditsAlike, op, true_iff]
      split
      · intro o ho
        cases ho
        trivial
      · intro o ho
        cases ho
    | _ => simp [EditsAlike, op]
  | edit key v =>
    simp only [EditsAlike, op]
    split
    · rename_i hkey
      simp [hkey, Cell.Harmless, cell]
    · rename_i hkey
      simp [hkey]

/-- Only a running process writes through its copy. -/
theorem Occurs.held {s : Installation} {e : Event} (h : Occurs s e) : ∀ o ∈ op F k e, Cell.Held (cell F k s) o := by
  intro o ho
  cases e with
  | process e =>
    cases o with
    | put v =>
      obtain ⟨p, hp⟩ := Option.isSome_iff_exists.1 h
      simp [Cell.Held, cell, hp]
    | _ => trivial
  | launch newId newToken disk =>
    cases ho
    trivial
  | quit =>
    cases ho
    trivial
  | edit key v =>
    simp only [op] at ho
    split at ho
    · cases ho
      trivial
    · cases ho

/-- A property of the process that runs is what the file says, in every state of a run, exactly when no edit made while a
process runs gives the file another value. Then the last value written, in the program or by an edit, is what the file has
for the property, whatever was launched and quit in between. -/
theorem settings_persist (hF : F.Faithful) (k : SettingKey) (file : QSettings) (es : List Event) :
    (Always (step F E) (fun s => ∀ p ∈ s.process, k.get p.settings = k.load F s.file) { file } es ↔
      EveryStep (step F E) (EditsAlike F k) { file } es) ∧
    (EveryStep (step F E) (fun s e => Occurs s e ∧ EditsAlike F k s e) { file } es →
      k.load F (run (step F E) { file } es).file = Cell.lastWritten (k.load F file) (es.filterMap (op F k))) := by
  have hstart : Cell.Coherent (cell F k { file }) := by simp [Cell.Coherent, cell]
  have hstep := cell_step (k := k) E hF
  constructor
  · rw [everyStep_congr fun s e => editsAlike_iff s e, everyStep_filterMap (op F k) (cell F k) hstep Cell.Harmless,
      ← Cell.always_coherent_iff hstart, ← always_filterMap (op F k) (cell F k) hstep]
    simp [Cell.Coherent, cell]
  · intro h
    have hcell : EveryStep Cell.step (fun c o => Cell.Held c o ∧ Cell.Harmless c o) (cell F k { file })
        (es.filterMap (op F k)) := by
      rw [← everyStep_filterMap (op F k) (cell F k) hstep]
      refine h.mono fun s e hs o ho => ⟨hs.1.held o ho, (editsAlike_iff s e).1 hs.2 o ho⟩
    have hrun := (Cell.stored_run hstart hcell).1
    rw [← run_filterMap (op F k) (cell F k) hstep] at hrun
    exact hrun

def someUuid : UuidText := ⟨"3f2504e0-4f89-41d3-9a0c-0305e82c3301", rfl⟩

/-- The wake threshold is raised, and the program is started again. -/
def relaunched : List Event :=
  [.launch someUuid someUuid ModelDownloader.cachedModels,
    .process (.write .wakeThreshold (7 / 10 : ℚ) (.failed 0)), .quit,
    .launch someUuid someUuid ModelDownloader.cachedModels]

/-- A threshold that is set is there after a quit and another launch. -/
theorem settings_persist_relaunched :
    SettingKey.wakeThreshold.load .propertyList
      (run (step .propertyList Application.cached) { file := {} } relaunched).file = (7 / 10 : ℚ) :=
  (settings_persist Application.cached SettingsFormat.propertyList_faithful .wakeThreshold {} relaunched).2
    ⟨⟨trivial, trivial⟩, ⟨rfl, trivial⟩, ⟨trivial, trivial⟩, ⟨trivial, trivial⟩, trivial⟩

end Installation

end PairionClient
