import LedgerRules.Number.Decimal
import LedgerRules.Text.Blank
import LedgerRules.Text.Letter

/-!
# Reading decimals

A number is written as digits with an optional point among them, before or
after them, and an optional power of ten.  The names of the infinities and of
the values that are no number may be written in any mixture of cases.
-/

namespace LedgerRules

/-- Whether a character is one of the ten ASCII digits. -/
def isAsciiDigit (character : Char) : Bool :=
  '0' ≤ character && character ≤ '9'

/-- The number that a row of ASCII digits denotes. -/
def digitsValue (digits : List Char) : Nat :=
  digits.foldl (fun number digit => 10 * number + (digit.toNat - 48)) 0

def splitSign : List Char → Bool × List Char
  | '-' :: rest => (true, rest)
  | '+' :: rest => (false, rest)
  | characters => (false, characters)

/-- A capital ASCII letter as a small one. -/
def asciiLower (character : Char) : Char :=
  if 'A' ≤ character && character ≤ 'Z' then Char.ofNat (character.toNat + 32)
    else character

/-- The power of ten that ends a number: nothing, or a letter `e` with a whole
number after it. -/
def readPower? : List Char → Option Int
  | [] => some 0
  | mark :: rest =>
      let (negative, digits) := splitSign rest
      if asciiLower mark = 'e' && !digits.isEmpty && digits.all isAsciiDigit
        then
        some (if negative then
          -(digitsValue digits : Int) else digitsValue digits)
      else none

/-- Coefficient and exponent of a number without a sign. -/
def readUnsigned? (characters : List Char) : Option (Nat × Int) :=
  let whole := characters.takeWhile isAsciiDigit
  let rest := characters.dropWhile isAsciiDigit
  let (fraction, power) := match rest with
    | '.' :: rest => (rest.takeWhile isAsciiDigit, rest.dropWhile isAsciiDigit)
    | rest => ([], rest)
  if whole.isEmpty && fraction.isEmpty then none
  else (readPower? power).map fun exponent =>
    (digitsValue (whole ++ fraction), exponent - fraction.length)

namespace Decimal

/-- The largest exponent that the leading digit of a decimal may have. -/
def greatestExponent : Int := 999999999999999999

/-- The smallest exponent that a decimal may have. -/
def leastExponent : Int := -1999999999999999997

/-- A digit of any script as the ASCII digit of the same value. -/
def plainDigit (character : Char) : Char :=
  match digitValue? character.toNat with
  | some value => Char.ofNat (48 + value)
  | none => character

/-- The value that a word denotes: an infinity, or no number with the digits
after the word. -/
def readWord? (negative : Bool) (word : List Char) : Option Decimal :=
  let letters := word.takeWhile (fun character => !isAsciiDigit character)
  let digits := word.dropWhile (fun character => !isAsciiDigit character)
  if !digits.all isAsciiDigit then none
  else match String.ofList letters with
    | "inf" | "infinity" =>
        if digits.isEmpty then some (.infinite negative) else none
    | "nan" => some (.nan negative false (digitsValue digits))
    | "snan" => some (.nan negative true (digitsValue digits))
    | _ => none

/-- Reads a decimal.  Blank characters at the ends and low lines anywhere do not
count, and digits of every script do. -/
def read? (text : String) : Option Decimal :=
  let characters := ((trimList isBlank text.toList).filter (· ≠ '_')).map
    plainDigit
  let (negative, body) := splitSign characters
  match readUnsigned? body with
  | some (coefficient, exponent) =>
      if leastExponent ≤ exponent && adjusted coefficient exponent ≤
        greatestExponent then
        some (.finite negative coefficient exponent)
      else none
  | none => readWord? negative (body.map asciiLower)

end Decimal

namespace Double

/-- Reads a double: a number, an infinity or `nan`, with nothing around it. -/
def read? (characters : List Char) : Option Double :=
  let (negative, body) := splitSign characters
  match readUnsigned? body with
  | some (coefficient, exponent) =>
      some (Decimal.finite negative coefficient exponent).toDouble
  | none =>
      match String.ofList (body.map asciiLower) with
      | "inf" | "infinity" => some (.infinite negative)
      | "nan" => some .nan
      | _ => none

end Double

/-- The greatest number of digits of a whole number. -/
def longestWhole : Nat := 4300

/-- Digits with single low lines between them, without the low lines. -/
def withoutLowLines? (characters : List Char) : Option (List Char) :=
  if characters.head? = some '_' || characters.getLast? = some '_' ||
      (characters.zip characters.tail).contains ('_', '_') then none
  else some (characters.filter (· ≠ '_'))

/-- A whole number with an optional sign, single low lines between its digits,
and blanks at its ends. -/
def wholeNumber? (text : String) : Option Int := do
  let (negative, body) := splitSign (trimList isBlank text.toList)
  let values ← (← withoutLowLines? body).mapM fun digit =>
    digitValue? digit.toNat
  if values.isEmpty || longestWhole < values.length then none
  else
    let magnitude : Nat :=
      values.foldl (fun number value => 10 * number + value) 0
    return if negative then -(magnitude : Int) else magnitude

end LedgerRules
