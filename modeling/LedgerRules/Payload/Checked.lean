import LedgerRules.Payload.Problem

/-!
# Checked values

Checking a payload goes on after a problem, so that all problems are reported at
once.  One thing stops it: a pattern that is beyond all bounds, in a number or
in the depth of its parts.
-/

namespace LedgerRules

namespace Payload

/-- The outcome of checking: a value, the problems found, or an overflow of a
pattern. -/
inductive Checked (Value : Type) where
  | accepted (value : Value)
  | rejected (problems : List Problem)
  | overflowed
deriving DecidableEq, Repr

namespace Checked

/-- Applies a checked function to a checked value and keeps the problems of
both, those of the function first. -/
def apply {Value Result : Type} :
    Checked (Value → Result) → Checked Value → Checked Result
  | .overflowed, _ | _, .overflowed => .overflowed
  | .rejected left, .rejected right => .rejected (left ++ right)
  | .rejected problems, .accepted _ | .accepted _, .rejected problems =>
      .rejected problems
  | .accepted function, .accepted value => .accepted (function value)

instance : Applicative Checked where
  pure := .accepted
  seq function value := apply function (value ())

/-- Rejects a value for a cause at this place. -/
def refuse {Value : Type} (cause : Cause) : Checked Value :=
  .rejected [⟨[], cause⟩]

/-- Checks an accepted value further. -/
def andThen {Value Result : Type} (check : Value → Checked Result) :
    Checked Value → Checked Result
  | .accepted value => check value
  | .rejected problems => .rejected problems
  | .overflowed => .overflowed

/-- The outcome seen from one step further out. -/
def under {Value : Type} (step : Step) : Checked Value → Checked Value
  | .rejected problems => .rejected (problems.map (Problem.under step))
  | outcome => outcome

/-- The outcome with further problems behind its own. -/
def alsoReporting {Value : Type} (more : List Problem) :
    Checked Value → Checked Value
  | .accepted value => if more.isEmpty then .accepted value else .rejected more
  | .rejected problems => .rejected (problems ++ more)
  | .overflowed => .overflowed

end Checked

abbrev Check (Value : Type) := Json → Checked Value

/-- The fields of an object. -/
abbrev Fields := List (String × Json)

/-- Checks the items of a list from the one with the given index on. -/
def checkItems {Value : Type} (check : Check Value) :
    Nat → List Json → Checked (List Value)
  | _, [] => .accepted []
  | index, item :: rest =>
      List.cons <$> (check item).under (.item index) <*> checkItems check
        (index + 1) rest

def list {Value : Type} (check : Check Value) : Check (List Value)
  | .arr items => checkItems check 0 items
  | _ => .refuse .notAList

def nullable {Value : Type} (check : Check Value) : Check (Option Value)
  | .null => .accepted none
  | value => some <$> check value

def required {Value : Type} (fields : Fields) (name : String)
    (check : Check Value) :
    Checked Value :=
  match Json.lookUp name fields with
  | some value => (check value).under (.field name)
  | none => (Checked.refuse .missing).under (.field name)

/-- Checks a field that stands for a default when it is absent. -/
def defaulted {Value : Type} (fields : Fields) (name : String) (default : Value)
    (check : Check Value) : Checked Value :=
  match Json.lookUp name fields with
  | some value => (check value).under (.field name)
  | none => .accepted default

/-- Checks a field that may be absent or `null`. -/
def optional {Value : Type} (fields : Fields) (name : String)
    (check : Check Value) :
    Checked (Option Value) :=
  defaulted fields name none (nullable check)

/-- A problem for each field whose name is not known. -/
def unknownFields (known : List String) (fields : Fields) : List Problem :=
  (fields.filter fun field => !known.contains field.1).map fun field =>
    ⟨[.field field.1], .unknownField⟩

end Payload

end LedgerRules
