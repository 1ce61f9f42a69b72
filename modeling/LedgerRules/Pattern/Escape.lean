import LedgerRules.Number.Numeral
import LedgerRules.Pattern.Scanner
import LedgerRules.Text.CharacterName

/-!
# Escapes in patterns

After a backslash a letter or digit has a meaning of its own, and every other
character stands for itself.  Inside a set of characters references and places
have no meaning, and `\b` is a character.
-/

namespace LedgerRules

namespace Pattern

def isAsciiLetter (character : Char) : Bool :=
  let small := asciiLower character
  'a' ≤ small && small ≤ 'z'

/-- Whether a character is a digit to base eight. -/
def isOctalDigit (character : Char) : Bool :=
  '0' ≤ character && character ≤ '7'

/-- The code of a letter that stands for a control character. -/
def controlCode? : Char → Option Nat
  | 'a' => some 7
  | 'b' => some 8
  | 'f' => some 12
  | 'n' => some 10
  | 'r' => some 13
  | 't' => some 9
  | 'v' => some 11
  | '\\' => some 92
  | _ => none

/-- The class of characters that a letter stands for. -/
def category? : Char → Option SetItem
  | 'd' => some (.category .digit false)
  | 'D' => some (.category .digit true)
  | 's' => some (.category .space false)
  | 'S' => some (.category .space true)
  | 'w' => some (.category .word false)
  | 'W' => some (.category .word true)
  | _ => none

/-- The place that a letter stands for. -/
def anchor? : Char → Option Anchor
  | 'A' => some .textStart
  | 'b' => some .wordEdge
  | 'B' => some .noWordEdge
  | 'Z' => some .textEnd
  | _ => none

def greatestCode : Nat := 0x10FFFF

/-- Past this number a code is out of all bounds. -/
def codeBound : Nat := 0x7FFFFFFF

/-- The greatest code written with three digits to base eight. -/
def greatestOctal : Nat := 0o377

namespace Scan

/-- An escape of `count` digits to base sixteen. -/
def hexEscape (letter : Char) (count : Nat) : Scan Nat := do
  let digits ← takeWhile isHexDigit count
  let escape := String.ofList ('\\' :: letter :: digits)
  if digits.length < count then refuse (.incompleteEscape escape) escape.length
  else
    let code := numberToBase 16 digits
    if codeBound < code then throw .tooLarge
    else if greatestCode < code then refuse (.badEscape escape) escape.length
    else return code

/-- An escape that gives the name of a character. -/
def namedEscape : Scan Nat := do
  if ← accept '\x7b' then
    let name ← takeUntil '\x7d' "character name"
    match characterOfName? name with
    | some code => return code
    | none => refuse (.undefinedName name) (name.length + 4)
  else refuse .missingBrace 0

/-- The code of an escape made of the given digits to base eight. -/
def octalCode (digits : List Char) : Scan Nat := do
  let escape := String.ofList ('\\' :: digits)
  let code := numberToBase 8 digits
  if greatestOctal < code then refuse (.octalTooLarge escape) escape.length
  else return code

/-- The escapes with a letter that mean the same inside and outside of sets. -/
def letterEscape (letter : Char) : Scan Nat := do
  match letter with
  | 'x' => hexEscape 'x' 2
  | 'u' => hexEscape 'u' 4
  | 'U' => hexEscape 'U' 8
  | 'N' => namedEscape
  | _ =>
      if isAsciiLetter letter || isAsciiDigit letter then
        refuse (.badEscape (String.ofList ['\\', letter])) 2
      else return letter.toNat

def setEscape (letter : Char) : Scan SetItem := do
  match controlCode? letter with
  | some code => return .code code
  | none =>
      match category? letter with
      | some item => return item
      | none =>
          if isOctalDigit letter then
            let more ← takeWhile isOctalDigit 2
            return .code (← octalCode (letter :: more))
          else return .code (← letterEscape letter)

/-- A reference to a group by its number. -/
def referenceTo (digits : List Char) : Scan Tree := do
  let number := numberToBase 10 digits
  let progress ← get
  if number < progress.nextNumber then
    if (progress.width? number).isNone then
      refuse .openGroup (digits.length + 1)
    else
      checkBehind number
      return .reference number
  else refuse (.unknownNumber number) digits.length

/-- An escape that starts with a digit other than zero: a character given by
three digits to base eight, or else a reference by at most two digits. -/
def digitEscape (first : Char) : Scan Tree := do
  let second ← takeWhile isAsciiDigit 1
  if second.all isOctalDigit && !second.isEmpty && isOctalDigit first then
    let third ← takeWhile isOctalDigit 1
    if third.isEmpty then referenceTo (first :: second)
    else return .code (← octalCode (first :: (second ++ third)))
  else referenceTo (first :: second)

/-- An escape outside of sets. -/
def treeEscape (letter : Char) : Scan Tree := do
  match anchor? letter with
  | some kind => return .anchor kind
  | none =>
      match category? letter with
      | some item => return .set false [item]
      | none =>
          match controlCode? letter with
          | some code => return .code code
          | none =>
              if letter = '0' then
                let more ← takeWhile isOctalDigit 2
                return .code (← octalCode (letter :: more))
              else if isAsciiDigit letter then digitEscape letter
              else return .code (← letterEscape letter)

end Scan

end Pattern

end LedgerRules
