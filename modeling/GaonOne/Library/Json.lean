import Mathlib.Data.Rat.Defs

/-! JSON values as a dynamically typed program reads them: `get` on an object,
truthiness, and `value or default`. -/

inductive Json where
  | null
  | bool (value : Bool)
  /-- A number, with the text it prints as. -/
  | num (value : ℚ) (text : String)
  | str (value : String)
  | arr (items : List Json)
  | obj (fields : List (String × Json))

namespace Json

/-- `bool(value)`. -/
def truthy : Json → Bool
  | null => false
  | bool value => value
  | num value _ => value ≠ 0
  | str value => value ≠ ""
  | arr items => !items.isEmpty
  | obj fields => !fields.isEmpty

/-- `fields.get(key)` of a dictionary; a missing key gives `None`. -/
def get (fields : List (String × Json)) (key : String) : Json :=
  ((fields.find? fun field => field.1 = key).map (·.2)).getD null

/-- The dictionary a value is, if it is one. -/
def fields? : Json → Option (List (String × Json))
  | obj fields => some fields
  | _ => none

/-- `value or {}`, as a dictionary; a truthy value of another type has no `get`. -/
def orEmpty (value : Json) : Option (List (String × Json)) :=
  if value.truthy then value.fields? else some []

/-- `str(value)`, where `print` is `str` on lists and dictionaries. -/
def printed (print : Json → String) : Json → String
  | str value => value
  | num _ text => text
  | bool value => if value then "True" else "False"
  | null => "None"
  | other => print other

/-- `str(value or "") or None`. -/
def text (print : Json → String) (value : Json) : Option String :=
  if value.truthy then (some (value.printed print)).filter (· ≠ "") else none

end Json
