import LedgerRules.Json.Basic

/-!
# Looking into objects

Fields of objects by their names.  A field that is absent counts as `null`, and
the caller says what stands in for it.
-/

namespace LedgerRules

namespace Json

/-- The value of a field, `null` when it is absent. -/
def valueAt (name : String) (json : Json) : Json :=
  (json.field? name).getD .null

/-- A field as text, unless it is `null`. -/
def textAt? (name : String) (json : Json) : Option String :=
  match json.valueAt name with
  | .null => none
  | value => some value.asText

/-- A field as text, with a text that stands in for `null`. -/
def textAt (name default : String) (json : Json) : String :=
  (json.textAt? name).getD default

/-- A field as a whole number; truth values count as one and zero. -/
def intAt? (name : String) (json : Json) : Option Int :=
  match json.valueAt name with
  | .int value => some value
  | .bool value => some (if value then 1 else 0)
  | _ => none

/-- Whether a field counts as present, with an answer that stands in for
`null`. -/
def flagAt (name : String) (default : Bool) (json : Json) : Bool :=
  match json.valueAt name with
  | .null => default
  | value => value.isTruthy

def itemsAt (name : String) (json : Json) : List Json :=
  match json.valueAt name with
  | .arr items => items
  | _ => []

end Json

end LedgerRules
