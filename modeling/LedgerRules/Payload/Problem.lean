import LedgerRules.Calendar.DateReading
import LedgerRules.Json.Basic
import LedgerRules.Number.Numeral
import LedgerRules.Pattern.Fault

/-!
# Problems of payloads

A payload that is refused comes with all its problems.  Each has a cause and the
place in the payload where it lies; the wording is made from the cause alone.
-/

namespace LedgerRules

namespace Payload

/-- One step into a payload: to a field of an object or to an item of a list. -/
inductive Step where
  | field (name : String)
  | item (index : Nat)
deriving DecidableEq, Repr

def Step.text : Step → String
  | .field name => name
  | .item index => toString index

/-- The cause of a problem. -/
inductive Cause where
  | missing
  | unknownField
  | notText
  | textTooShort (least : Nat)
  | textTooLong (most : Nat)
  | notAList
  | notAnObject
  | notAModel (model : String)
  | noFields
  | notAnOption (options : List String)
  | unreadableBool
  | notABool
  | unreadableInt
  | fractionalInt
  | oversizedInt
  | notAnInt
  | unreadableFloat
  | notAFloat
  | infinite
  | notATuple
  | tupleTooLong (most actual : Nat)
  | unreadableDecimal
  | notADecimal
  | date (fault : Date.ReadFault)
  | badPattern (text : String) (complaint : Pattern.Complaint)
      (position? : Option Nat)
  | longCount (digits : Nat)
  | clashingAlphabets
  | reversedRange (low high : Double)
  | belowLeast (least : Int)
  | aboveMost (most : Int)
  | brokenText
  | tooDeep
deriving DecidableEq, Repr

namespace Cause

/-- Options between quotes, the last two joined by "or". -/
def listed : List String → String
  | [] => ""
  | [option] => "'" ++ option ++ "'"
  | [option, last] => "'" ++ option ++ "' or '" ++ last ++ "'"
  | option :: rest => "'" ++ option ++ "', " ++ listed rest

def characters (count : Nat) : String :=
  toString count ++ (if count = 1 then " character" else " characters")

def code : Cause → String
  | missing => "missing"
  | unknownField => "extra_forbidden"
  | notText => "string_type"
  | textTooShort _ => "string_too_short"
  | textTooLong _ => "string_too_long"
  | notAList => "list_type"
  | notAnObject => "dict_type"
  | notAModel _ => "model_type"
  | noFields => "model_attributes_type"
  | notAnOption _ => "literal_error"
  | unreadableBool => "bool_parsing"
  | notABool => "bool_type"
  | unreadableInt => "int_parsing"
  | fractionalInt => "int_from_float"
  | oversizedInt => "int_parsing_size"
  | notAnInt => "int_type"
  | unreadableFloat => "float_parsing"
  | notAFloat => "float_type"
  | infinite => "finite_number"
  | notATuple => "tuple_type"
  | tupleTooLong _ _ => "too_long"
  | unreadableDecimal => "decimal_parsing"
  | notADecimal => "decimal_type"
  | date (.unreadable _) => "date_from_datetime_parsing"
  | date .inexact => "date_from_datetime_inexact"
  | date .yearZero => "date_parsing"
  | date .notADate => "date_type"
  | badPattern _ _ _ | longCount _ | clashingAlphabets | reversedRange _ _ =>
      "value_error"
  | belowLeast _ => "greater_than_equal"
  | aboveMost _ => "less_than_equal"
  | brokenText => "json_invalid"
  | tooDeep => "value_error"

/-- The wording of a cause. -/
def message : Cause → String
  | missing => "Field required"
  | unknownField => "Extra inputs are not permitted"
  | notText => "Input should be a valid string"
  | textTooShort least => "String should have at least " ++ characters least
  | textTooLong most => "String should have at most " ++ characters most
  | notAList => "Input should be a valid list"
  | notAnObject => "Input should be a valid dictionary"
  | notAModel model =>
      "Input should be a valid dictionary or instance of " ++ model
  | noFields =>
      "Input should be a valid dictionary or object to extract fields from"
  | notAnOption options => "Input should be " ++ listed options
  | unreadableBool =>
      "Input should be a valid boolean, unable to interpret input"
  | notABool => "Input should be a valid boolean"
  | unreadableInt =>
      "Input should be a valid integer, unable to parse string as an integer"
  | fractionalInt =>
      "Input should be a valid integer, got a number with a fractional part"
  | oversizedInt =>
      "Unable to parse input string as an integer, exceeded maximum size"
  | notAnInt => "Input should be a valid integer"
  | unreadableFloat =>
      "Input should be a valid number, unable to parse string as a number"
  | notAFloat => "Input should be a valid number"
  | infinite => "Input should be a finite number"
  | notATuple => "Input should be a valid tuple"
  | tupleTooLong most actual =>
      "Tuple should have at most " ++ toString most ++
        " items after validation, not " ++
        toString actual
  | unreadableDecimal => "Input should be a valid decimal"
  | notADecimal =>
      "Decimal input should be an integer, float, string or Decimal object"
  | date (.unreadable complaint) =>
      "Input should be a valid date or datetime, " ++ complaint.message
  | date .inexact =>
      "Datetimes provided to dates should have zero time - e.g. be exact dates"
  | date .yearZero =>
      "Input should be a valid date in the format YYYY-MM-DD, year 0 is out of range"
  | date .notADate => "Input should be a valid date"
  | badPattern text complaint position? =>
      "Value error, invalid regex: " ++ Pattern.Fault.describe text complaint
        position?
  | longCount digits =>
      "Value error, Exceeds the limit (" ++ toString longestWhole ++
        " digits) for integer string conversion: value has " ++
          toString digits ++
        " digits; use sys.set_int_max_str_digits() to increase the limit"
  | clashingAlphabets => "Value error, ASCII and UNICODE flags are incompatible"
  | reversedRange low high =>
      "Value error, amount_between min " ++ low.text ++ " exceeds max " ++
        high.text
  | belowLeast least =>
      "Input should be greater than or equal to " ++ toString least
  | aboveMost most => "Input should be less than or equal to " ++ toString most
  | brokenText => "JSON decode error"
  | tooDeep => "Circular reference detected (depth exceeded)"

end Cause

/-- A cause and the steps that lead to its place. -/
structure Problem where
  place : List Step
  cause : Cause
deriving DecidableEq, Repr

namespace Problem

/-- The problem seen from one step further out. -/
def under (step : Step) (problem : Problem) : Problem :=
  { problem with place := step :: problem.place }

/-- A problem in one line: its place, if it has one, and its wording. -/
def describe (problem : Problem) : String :=
  let place := String.intercalate "." (problem.place.map Step.text)
  if place = "" then problem.cause.message else place ++ ": " ++
    problem.cause.message

/-- Problems in one line. -/
def describeAll (problems : List Problem) : String :=
  String.intercalate "; " (problems.map describe)

end Problem

end Payload

end LedgerRules
