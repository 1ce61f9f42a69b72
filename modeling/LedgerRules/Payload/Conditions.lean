import LedgerRules.Payload.Scalar
import LedgerRules.Pattern.Parser

/-!
# Payload of conditions

What a stored rule says about the transactions that it applies to.  Instead of a
closed range of amounts a payload may give a least or a greatest amount alone;
the open side is then closed at zero or at the greatest whole number that every
JSON reader takes exactly.
-/

namespace LedgerRules

/-- The kinds of transactions. -/
def transactionTypes : List String := ["expense", "income", "transfer"]

namespace Payload

/-- The conditions of a rule, each of which may be absent. -/
structure Conditions where
  rawTextContains : Option (List String) := none
  descriptionContains : Option (List String) := none
  descriptionPattern : Option Pattern := none
  amountBetween : Option (Double × Double) := none
  amountEquals : Option Double := none
  source : Option (List String) := none
  type : Option String := none
  fromAccount : Option String := none
  toAccount : Option String := none
  category : Option String := none
deriving DecidableEq, Repr

namespace Conditions

/-- The greatest whole number that every JSON reader takes exactly. -/
def greatestAmount : Int := 9007199254740991

/-- A range of amounts from an optional least and an optional greatest one. -/
def closedRange (floor ceiling : Json) : Option (Json × Json) :=
  match floor, ceiling with
  | .null, .null => none
  | floor, .null => some (floor, .int greatestAmount)
  | .null, ceiling => some (.int 0, ceiling)
  | floor, ceiling => some (floor, ceiling)

/-- The names of the fields, in order. -/
def names : List String :=
  ["raw_text_contains", "description_contains", "description_regex",
    "amount_between", "amount_equals", "source", "type", "from_account",
    "to_account", "category"]

/-- The fields with a one-sided range of amounts turned into a closed one.  A
closed range that is there already counts instead. -/
def withClosedRange (fields : Fields) : Fields :=
  let floor? := Json.lookUp "amount_min" fields
  let ceiling? := Json.lookUp "amount_max" fields
  if floor?.isNone && ceiling?.isNone then fields
  else
    let rest := Json.dropField "amount_max" (Json.dropField "amount_min" fields)
    match (Json.lookUp "amount_between" rest).getD .null with
    | .null =>
        let range := match closedRange (floor?.getD .null) (ceiling?.getD .null)
          with
          | some (low, high) => .arr [low, high]
          | none => .null
        Json.setField "amount_between" range rest
    | _ => rest

/-- Accepts the text of a pattern. -/
def pattern : Check Pattern := fun value =>
  (text value).andThen fun text =>
    match Pattern.parse text with
    | .ok pattern => .accepted pattern
    | .error (.malformed complaint position?) =>
      .refuse (.badPattern text complaint position?)
    | .error (.longCount digits) => .refuse (.longCount digits)
    | .error .clashingAlphabets => .refuse .clashingAlphabets
    | .error .tooLarge | .error .tooDeep => .overflowed

/-- Accepts two numbers of which the first does not exceed the second. -/
def orderedPair : Check (Double × Double) := fun value =>
  (doublePair value).andThen fun (low, high) =>
    if low.exceeds high then .refuse (.reversedRange low high) else .accepted
      (low, high)

def checkFields (fields : Fields) : Checked Conditions :=
  let fields := withClosedRange fields
  (Conditions.mk
    <$> optional fields "raw_text_contains" (list text)
    <*> optional fields "description_contains" (list text)
    <*> optional fields "description_regex" pattern
    <*> optional fields "amount_between" orderedPair
    <*> optional fields "amount_equals" double
    <*> optional fields "source" (list text)
    <*> optional fields "type" (oneOf transactionTypes)
    <*> optional fields "from_account" text
    <*> optional fields "to_account" text
    <*> optional fields "category" text).alsoReporting
      (unknownFields names fields)

def check (origin : Origin) : Check Conditions :=
  model origin "RuleConditions" checkFields

def texts (values : List String) : Json :=
  .arr (values.map .str)

/-- The payload with every field written out, absent ones as `null`. -/
def dump (conditions : Conditions) : Fields :=
  let optional :=
    fun {Value : Type} (write : Value → Json) (value? : Option Value) =>
    (value?.map write).getD .null
  [("raw_text_contains", optional texts conditions.rawTextContains),
    ("description_contains", optional texts conditions.descriptionContains),
    ("description_regex",
      optional (fun pattern => .str pattern.text)
        conditions.descriptionPattern),
    ("amount_between",
      optional (fun range => .arr [.float range.1, .float range.2])
        conditions.amountBetween),
    ("amount_equals", optional .float conditions.amountEquals),
    ("source", optional texts conditions.source),
    ("type", optional .str conditions.type),
    ("from_account", optional .str conditions.fromAccount),
    ("to_account", optional .str conditions.toAccount),
    ("category", optional .str conditions.category)]

end Conditions

def withoutNulls (fields : Fields) : Fields :=
  fields.filter fun field =>
    match field.2 with
    | .null => false
    | _ => true

end Payload

end LedgerRules
