import PairionClient.Core.Constants

/-!
# JSON

JSON values as Qt reads them. A reader that is asked for another kind of value than it holds gives that kind's default. The
parser itself is Qt's, and stays a parameter.
-/

namespace PairionClient

/-- A `QJsonValue`; a number is exact. -/
inductive QJsonValue where
  | null
  | bool (b : Bool)
  | double (q : ℚ)
  | string (s : String)
  | array (items : List QJsonValue)
  | object (members : List (String × QJsonValue))
  | undefined

/-- A `QJsonObject`. -/
abbrev QJsonObject : Type := List (String × QJsonValue)

/-- `QJsonObject::value`. -/
def QJsonObject.value (obj : QJsonObject) (key : String) : QJsonValue := (obj.lookup key).getD .undefined

/-- `QJsonObject::contains`. -/
def QJsonObject.contains (obj : QJsonObject) (key : String) : Bool := (obj.lookup key).isSome

namespace QJsonValue

def toString : QJsonValue → String
  | .string s => s
  | _ => ""

/-- `toInt`: a number that is a 32-bit integer, and 0 for anything else. -/
def toInt : QJsonValue → Int
  | .double q => if q.den = 1 ∧ -2147483648 ≤ q.num ∧ q.num ≤ 2147483647 then q.num else 0
  | _ => 0

def toDouble : QJsonValue → ℚ
  | .double q => q
  | _ => 0

def toArray : QJsonValue → List QJsonValue
  | .array items => items
  | _ => []

def toObject : QJsonValue → QJsonObject
  | .object members => members
  | _ => []

end QJsonValue

/-- A `QJsonDocument` that was parsed without an error. -/
inductive QJsonDocument where
  | array (items : List QJsonValue)
  | object (members : QJsonObject)

end PairionClient
