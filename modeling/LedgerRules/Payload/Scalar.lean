import LedgerRules.Number.Numeral
import LedgerRules.Payload.Checked

/-!
# Checks of single values

Values are taken in a lenient way: a number may stand as text, a truth value as
a number or a word, a date as a number of seconds.  Text is never made from
anything else.
-/

namespace LedgerRules

namespace Payload

/-- Accepts text. -/
def text : Check String
  | .str value => .accepted value
  | _ => .refuse .notText

/-- Accepts text whose length lies between two bounds. -/
def boundedText (least most : Nat) : Check String
  | .str value =>
      if value.length < least then .refuse (.textTooShort least)
      else if most < value.length then .refuse (.textTooLong most)
      else .accepted value
  | _ => .refuse .notText

/-- Accepts one of several texts. -/
def oneOf (options : List String) : Check String
  | .str value =>
      if options.contains value then .accepted value else .refuse
      (.notAnOption options)
  | _ => .refuse (.notAnOption options)

def falseWords : List String := ["0", "off", "f", "false", "n", "no"]

def trueWords : List String := ["1", "on", "t", "true", "y", "yes"]

/-- The truth value of a whole number. -/
def boolOfInt (number : Int) : Checked Bool :=
  if number = 0 then .accepted false
  else if number = 1 then .accepted true
  else .refuse .unreadableBool

/-- The whole number that a double denotes, if it denotes one. -/
def wholeOfDouble? : Double → Option Int
  | .finite negative significand exponent =>
      let magnitude? : Option Nat :=
        if 0 ≤ exponent then some (significand <<< exponent.toNat)
        else
          let unit := 1 <<< (-exponent).toNat
          if significand % unit = 0 then some (significand / unit) else none
      magnitude?.map fun magnitude => if negative then -(magnitude : Int)
        else magnitude
  | _ => none

/-- Accepts a truth value, or a number or word that stands for one. -/
def bool : Check Bool
  | .bool value => .accepted value
  | .int number =>
      if (Double.ofInt number).isFinite then boolOfInt number
      else .refuse .notABool
  | .float number =>
      match wholeOfDouble? number with
      | some whole => boolOfInt whole
      | none => .refuse .notABool
  | .str value =>
      let small := String.ofList (value.toList.map asciiLower)
      if falseWords.contains small then .accepted false
      else if trueWords.contains small then .accepted true
      else .refuse .unreadableBool
  | _ => .refuse .notABool

/-- Digits without the zeros, and the low lines among them, that lead a number.
One zero stays in front of a point or of nothing. -/
def withoutLeadingZeros? : List Char → Option (List Char)
  | '0' :: rest =>
      match rest.dropWhile (fun character => character = '0' || character = '_')
        with
      | [] => some [rest.getLast?.getD '0']
      | '.' :: fraction =>
          let zeros :=
            rest.takeWhile (fun character => character = '0' || character = '_')
          some (zeros.getLast?.getD '0' :: '.' :: fraction)
      | digit :: more =>
        if isAsciiDigit digit then some (digit :: more) else none
  | first :: rest =>
      if first = '-' || isAsciiDigit first then some (first :: rest) else none
  | [] => none

def withoutZeroFraction (characters : List Char) : List Char :=
  match characters.dropWhile (· ≠ '.') with
  | _ :: fraction =>
      if fraction.all (· = '0') then characters.takeWhile (· ≠ '.')
        else characters
  | [] => characters

/-- The whole number that a row of digits denotes, which has no zero in
front. -/
def plainWhole? (characters : List Char) : Option Int :=
  let (negative, digits) := match characters with
    | '-' :: rest => (true, rest)
    | rest => (false, rest)
  if digits.isEmpty || !digits.all isAsciiDigit then none
  else if digits.head? = some '0' && digits.length ≠ 1 then none
  else some (if negative then
    -(digitsValue digits : Int) else digitsValue digits)

/-- The whole number that a text denotes. -/
def wholeOfText (value : String) : Checked Int :=
  let trimmed := trimList isWhiteSpace value.toList
  let unsigned := match trimmed with
    | '+' :: rest => rest
    | rest => rest
  match (withoutLeadingZeros? unsigned).map withoutZeroFraction with
  | none => .refuse .unreadableInt
  | some characters =>
      match withoutLowLines? characters with
      | none => .refuse .unreadableInt
      | some digits =>
          if longestWhole < digits.length then .refuse .oversizedInt
          else match plainWhole? digits with
            | some number => .accepted number
            | none => .refuse .unreadableInt

/-- Accepts a whole number, or what stands for one without a fraction.  A double
must lie within the numbers of 64 bits. -/
def int : Check Int
  | .bool value => .accepted (if value then 1 else 0)
  | .int number => .accepted number
  | .float number =>
      if !number.isFinite then .refuse .infinite
      else match wholeOfDouble? number with
        | some whole =>
            if whole.natAbs < Nat.pow 2 63 then .accepted whole
              else .refuse .oversizedInt
        | none => .refuse .fractionalInt
  | .str value => wholeOfText value
  | _ => .refuse .notAnInt

def doubleOfText (value : String) : Checked Double :=
  let lenient :=
    if value.toList.contains '_' then (withoutLowLines? value.toList).bind
      Double.read? else none
  match (Double.read? (trimList isWhiteSpace value.toList)).or lenient with
  | some number => .accepted number
  | none => .refuse .unreadableFloat

/-- Accepts a number as the nearest double. -/
def double : Check Double
  | .bool value => .accepted (Double.ofInt (if value then 1 else 0))
  | .int number =>
      let nearest := Double.ofInt number
      if nearest.isFinite then .accepted nearest else .refuse .notAFloat
  | .float number => .accepted number
  | .str value => doubleOfText value
  | _ => .refuse .notAFloat

def finiteDecimal (decimal : Decimal) : Checked Decimal :=
  if decimal.isFinite then .accepted decimal else .refuse .infinite

/-- Accepts a number as an exact decimal. -/
def decimal : Check Decimal
  | .int number => .accepted (Decimal.ofInt number)
  | .float number => finiteDecimal (Decimal.ofDouble number)
  | .str value =>
      match Decimal.read? value with
      | some decimal => finiteDecimal decimal
      | none => .refuse .unreadableDecimal
  | _ => .refuse .notADecimal

/-- Accepts two numbers. -/
def doublePair : Check (Double × Double)
  | .arr items =>
      if 2 < items.length then .refuse (.tupleTooLong 2 items.length)
      else
        let itemAt := fun (index : Nat) =>
          match items[index]? with
          | some item => (double item).under (.item index)
          | none => (Checked.refuse .missing).under (.item index)
        Prod.mk <$> itemAt 0 <*> itemAt 1
  | _ => .refuse .notATuple

/-- Accepts a date. -/
def date : Check Date := fun value =>
  let outcome := match value with
    | .str text => Date.readLeniently text
    | .int number => Date.ofWhole number
    | .float number => Date.ofDouble number
    | _ => .error .notADate
  match outcome with
  | .ok date => .accepted date
  | .error fault => .refuse (.date fault)

def anyObject : Check Fields
  | .obj fields => .accepted fields
  | _ => .refuse .notAnObject

/-- Where a payload comes from, which decides how a value that is no object is
refused where a model is wanted. -/
inductive Origin where
  | storage
  | request
deriving DecidableEq, Repr

/-- Checks the fields of an object that has the shape of a model. -/
def model {Value : Type} (origin : Origin) (name : String)
    (check : Fields → Checked Value) :
    Check Value
  | .obj fields => check fields
  | _ =>
      match origin with
      | .storage => .refuse (.notAModel name)
      | .request => .refuse .noFields

end Payload

end LedgerRules
