import LedgerRules.Number.Decimal
import LedgerRules.Text.Printable

/-!
# JSON values

Stored rule payloads and request bodies are JSON values.  Whole numbers have no
limit and are kept apart from numbers with a point or a power of ten, which are
doubles; the fields of an object keep their order, and each key stands once.
-/

namespace LedgerRules

/-- A JSON value. -/
inductive Json where
  | null
  | bool (value : Bool)
  | int (value : Int)
  | float (value : Double)
  | str (value : String)
  | arr (items : List Json)
  | obj (fields : List (String × Json))
deriving Repr, Inhabited

namespace Json

/-- The value of a key in a list of fields. -/
def lookUp (key : String) : List (String × Json) → Option Json
  | [] => none
  | (name, value) :: rest => if name = key then some value else lookUp key rest

/-- Gives a key a value: in its place when the key is there, at the end when
not. -/
def setField (key : String) (value : Json) :
    List (String × Json) → List (String × Json)
  | [] => [(key, value)]
  | (name, old) :: rest =>
      if name = key then (key, value) :: rest
      else (name, old) :: setField key value rest

def dropField (key : String) (fields : List (String × Json)) :
    List (String × Json) :=
  fields.filter fun field => field.1 ≠ key

/-- The value of a key of an object. -/
def field? (key : String) : Json → Option Json
  | .obj fields => lookUp key fields
  | _ => none

/-- Whether a value counts as present: `null`, `false`, zero, and empty text,
lists and objects do not. -/
def isTruthy : Json → Bool
  | .null => false
  | .bool value => value
  | .int value => value ≠ 0
  | .float (.finite _ significand _) => significand ≠ 0
  | .float _ => true
  | .str value => value ≠ ""
  | .arr items => !items.isEmpty
  | .obj fields => !fields.isEmpty

/-- An optional text, with `null` for none. -/
def ofText? : Option String → Json
  | some value => .str value
  | none => .null

mutual

/-- How a value is shown inside another one, with text between quotes. -/
def shown : Json → String
  | .null => "None"
  | .bool value => if value then "True" else "False"
  | .int value => toString value
  | .float value => value.text
  | .str value => quoted value
  | .arr items => "[" ++ String.intercalate ", " (shownItems items) ++ "]"
  | .obj fields =>
      "\x7b" ++ String.intercalate ", " (shownFields fields) ++ "\x7d"

def shownItems : List Json → List String
  | [] => []
  | item :: rest => shown item :: shownItems rest

def shownFields : List (String × Json) → List String
  | [] => []
  | (key, value) :: rest =>
      (quoted key ++ ": " ++ shown value) :: shownFields rest

end

mutual

/-- How deeply a value is nested; a value without parts counts as one. -/
def depth : Json → Nat
  | .arr items => depthOfItems items + 1
  | .obj fields => depthOfFields fields + 1
  | _ => 1

def depthOfItems : List Json → Nat
  | [] => 0
  | item :: rest => max (depth item) (depthOfItems rest)

def depthOfFields : List (String × Json) → Nat
  | [] => 0
  | (_, value) :: rest => max (depth value) (depthOfFields rest)

end

/-- A value as text: text itself, and every other value as it is shown. -/
def asText : Json → String
  | .str value => value
  | value => shown value

/-- A key that was just given a value has it. -/
theorem lookUp_setField (key : String) (value : Json)
    (fields : List (String × Json)) :
    lookUp key (setField key value fields) = some value := by
  induction fields with
  | nil => simp [setField, lookUp]
  | cons field rest induction =>
      obtain ⟨name, old⟩ := field
      by_cases same : name = key
      · simp [setField, lookUp, same]
      · simp [setField, lookUp, same, induction]

/-- Giving one key a value leaves the other keys alone. -/
theorem lookUp_setField_of_ne {key other : String} (different : other ≠ key)
    (value : Json) (fields : List (String × Json)) :
    lookUp other (setField key value fields) = lookUp other fields := by
  induction fields with
  | nil => simp [setField, lookUp, Ne.symm different]
  | cons field rest induction =>
      obtain ⟨name, old⟩ := field
      by_cases same : name = key
      · subst same
        simp [setField, lookUp, Ne.symm different]
      · simp only [setField, if_neg same, lookUp, induction]

end Json

end LedgerRules
