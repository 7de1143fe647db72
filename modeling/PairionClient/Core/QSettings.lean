import Mathlib.Data.Rat.Floor
import Mathlib.Logic.Function.Basic

/-!
# The settings file

`QSettings` is a file of values by their keys. How the platform gives a value back, and how Qt reads numbers in texts and
writes them, is a parameter: a file of texts gives back the text of a number, a property list the number.
-/

namespace PairionClient

/-- The values that the program stores, and `invalid` for none. -/
inductive QVariant where
  | invalid
  | double (d : ℚ)
  | int (n : Int)
  | string (s : String)
  deriving DecidableEq

structure SettingsFormat where
  /-- `QString::toDouble` and `toInt`: 0 for a text that is no number. -/
  toDouble : String → ℚ
  toInt : String → Int
  /-- The text of a double. -/
  number : ℚ → String
  /-- What a value is when it is read from the file again. -/
  reload : QVariant → QVariant

namespace QVariant

variable (F : SettingsFormat)

/-- Half away from zero. -/
def qRound (d : ℚ) : Int := if 0 ≤ d then ⌊d + 1 / 2⌋ else ⌈d - 1 / 2⌉

def toDouble : QVariant → ℚ
  | .invalid => 0
  | .double d => d
  | .int n => n
  | .string s => F.toDouble s

def toInt : QVariant → Int
  | .invalid => 0
  | .double d => qRound d
  | .int n => n
  | .string s => F.toInt s

def toString : QVariant → String
  | .invalid => ""
  | .double d => F.number d
  | .int n => n.repr
  | .string s => s

end QVariant

/-- A value that is written is read again as the value it was. -/
structure SettingsFormat.Faithful (F : SettingsFormat) : Prop where
  double : ∀ d, (F.reload (.double d)).toDouble F = d
  int : ∀ n, (F.reload (.int n)).toInt F = n
  string : ∀ s, (F.reload (.string s)).toString F = s

/-- A property list, as on macOS, keeps the types of what it is given. -/
def SettingsFormat.propertyList : SettingsFormat where
  toDouble s := s.toInt?.getD 0
  toInt s := s.toInt?.getD 0
  number d := toString d
  reload v := v

/-- A property list keeps the types of what is written to it. -/
theorem SettingsFormat.propertyList_faithful : propertyList.Faithful := ⟨fun _ => rfl, fun _ => rfl, fun _ => rfl⟩

structure QSettings where
  entries : String → Option QVariant := fun _ => none

namespace QSettings

def value (key : String) (defaultValue : QVariant) (s : QSettings) : QVariant := (s.entries key).getD defaultValue

def setValue (F : SettingsFormat) (key : String) (v : QVariant) (s : QSettings) : QSettings :=
  ⟨Function.update s.entries key (some (F.reload v))⟩

variable (F : SettingsFormat) (s : QSettings)

/-- A key that was written reads as what the file makes of the value. -/
@[simp] theorem value_setValue (key : String) (v defaultValue : QVariant) :
    (s.setValue F key v).value key defaultValue = F.reload v := by
  simp [value, setValue]

/-- A write to one key leaves what the others read. -/
theorem value_setValue_of_ne {key key' : String} (h : key' ≠ key) (v defaultValue : QVariant) :
    (s.setValue F key v).value key' defaultValue = s.value key' defaultValue := by
  simp [value, setValue, Function.update_of_ne h]

end QSettings

end PairionClient
