import LedgerRules.Json.Basic
import LedgerRules.Number.Numeral

/-!
# Reading JSON text

The reader stops at the first place where the text cannot go on as JSON and
reports that place as a count of characters.  Besides standard JSON it knows
`NaN`, `Infinity` and `-Infinity`.  When a key stands twice in an object the
last value counts, in the place of the first.

A text may escape one half of a pair of codes without the other.  No text here
holds such a half: it is replaced, and `isHalved` tells that it was there.
-/

namespace LedgerRules

namespace Json

/-- Why a text is no JSON value: it breaks off or goes astray at a position, it
holds a whole number with too many digits to be read, or it is nested too
deeply. -/
inductive ReadFault where
  | malformed (position : Nat)
  | longNumber
  | tooDeep
deriving DecidableEq, Repr

/-- How many lists and objects may be open at once.  The calls of a reader's own
callers count as well; this is the limit of one that is called from the
outside. -/
def openLimit : Nat := 990

/-- The rest of a text and the number of characters before it, and whether half
of a pair stood alone among them. -/
structure Cursor where
  position : Nat
  rest : List Char
  halved : Bool := false
deriving Repr

namespace Cursor

/-- Moves over the given number of characters. -/
def skip (cursor : Cursor) (count : Nat) : Cursor :=
  { cursor with
    position := cursor.position + count
    rest := cursor.rest.drop count }

/-- Whether a character separates the parts of JSON text. -/
def isSeparator (character : Char) : Bool :=
  character = ' ' || character = '\t' || character = '\n' || character = '\r'

/-- Moves over separating characters. -/
def skipSeparators (cursor : Cursor) : Cursor :=
  cursor.skip (cursor.rest.takeWhile isSeparator).length

/-- The fault at this place. -/
def fault (cursor : Cursor) : ReadFault :=
  .malformed cursor.position

end Cursor

def hexValue? (character : Char) : Option Nat :=
  if isAsciiDigit character then some (character.toNat - 48)
  else
    let small := asciiLower character
    if 'a' ≤ small && small ≤ 'f' then some (small.toNat - 87) else none

/-- The value of a row of hexadecimal digits. -/
def hexNumber? (digits : List Char) : Option Nat :=
  digits.foldlM (fun number digit => (hexValue? digit).map (16 * number + ·)) 0

/-- The character that a letter after a backslash stands for. -/
def escaped? : Char → Option Char
  | '"' => some '"'
  | '\\' => some '\\'
  | '/' => some '/'
  | 'b' => some '\x08'
  | 'f' => some '\x0C'
  | 'n' => some '\n'
  | 'r' => some '\r'
  | 't' => some '\t'
  | _ => none

/-- Whether a code is the first half of a pair that encodes one character. -/
def isHighHalf (code : Nat) : Bool := 0xD800 ≤ code && code ≤ 0xDBFF

/-- Whether a code is the second half of a pair that encodes one character. -/
def isLowHalf (code : Nat) : Bool := 0xDC00 ≤ code && code ≤ 0xDFFF

/-- The character of a code; half of a pair on its own has none. -/
def codeCharacter? (code : Nat) : Option Char :=
  if isHighHalf code || isLowHalf code then none else some (Char.ofNat code)

/-- What stands for half of a pair on its own. -/
def replacement : Char := '\uFFFD'

/-- The character that four hexadecimal digits, or two groups of them, stand
for, if there is one, with the number of characters taken after the letter `u`
at this place. -/
def readUnicode (cursor : Cursor) : Except ReadFault (Option Char × Nat) :=
  let digits := (cursor.rest.drop 1).take 4
  if (cursor.rest.drop 5).isEmpty then .error cursor.fault
  else match hexNumber? digits with
    | none => .error cursor.fault
    | some code =>
        match isHighHalf code, cursor.rest.drop 5 with
        | true, '\\' :: 'u' :: more =>
            if more.length ≤ 4 then .ok (codeCharacter? code, 4)
            else match hexNumber? (more.take 4) with
              | none => .error (.malformed (cursor.position + 6))
              | some low =>
                  if isLowHalf low then
                    .ok (some (Char.ofNat
                      (0x10000 + (code - 0xD800) * 0x400 + (low - 0xDC00))), 10)
                  else .ok (codeCharacter? code, 4)
        | _, _ => .ok (codeCharacter? code, 4)

/-- Reads text up to its closing quote; `start` is the place of the opening
one. -/
def readText (start : Nat) :
    Nat → List Char → Cursor → Except ReadFault (String × Cursor)
  | 0, _, _ => .error (.malformed start)
  | fuel + 1, done, cursor =>
      match cursor.rest with
      | [] => .error (.malformed start)
      | '"' :: _ => .ok (String.ofList done.reverse, cursor.skip 1)
      | '\\' :: [] => .error (.malformed start)
      | '\\' :: 'u' :: _ => do
          let (character?, taken) ← readUnicode (cursor.skip 1)
          let next := { cursor.skip (2 + taken) with
            halved := cursor.halved || character?.isNone }
          readText start fuel (character?.getD replacement :: done) next
      | '\\' :: letter :: _ =>
          match escaped? letter with
          | some character =>
            readText start fuel (character :: done) (cursor.skip 2)
          | none => .error cursor.fault
      | character :: _ =>
          if character.toNat < 0x20 then .error cursor.fault
          else readText start fuel (character :: done) (cursor.skip 1)

/-- The characters of a power of ten at the head of a row, if one stands
there. -/
def takePower : List Char → List Char
  | mark :: rest =>
      if asciiLower mark = 'e' then
        let (sign, digits) := match rest with
          | '-' :: more => (['-'], more)
          | '+' :: more => (['+'], more)
          | more => ([], more)
        let digits := digits.takeWhile isAsciiDigit
        if digits.isEmpty then [] else mark :: sign ++ digits
      else []
  | [] => []

/-- The characters of a fraction at the head of a row, if one stands there. -/
def takeFraction : List Char → List Char
  | '.' :: rest =>
      let digits := rest.takeWhile isAsciiDigit
      if digits.isEmpty then [] else '.' :: digits
  | _ => []

/-- Reads a number.  Zero is not followed by further digits. -/
def readNumber (cursor : Cursor) : Except ReadFault (Json × Cursor) :=
  let (sign, rest) := match cursor.rest with
    | '-' :: rest => (['-'], rest)
    | rest => ([], rest)
  let whole := match rest with
    | '0' :: _ => ['0']
    | rest => rest.takeWhile isAsciiDigit
  if whole.isEmpty then .error cursor.fault
  else
    let rest := rest.drop whole.length
    let fraction := takeFraction rest
    let power := takePower (rest.drop fraction.length)
    let characters := sign ++ whole ++ fraction ++ power
    let next := cursor.skip characters.length
    if fraction.isEmpty && power.isEmpty then
      if longestWhole < whole.length then .error .longNumber
      else
        let magnitude : Int := digitsValue whole
        .ok (.int (if sign.isEmpty then magnitude else -magnitude), next)
    else match Double.read? characters with
      | some double => .ok (.float double, next)
      | none => .error cursor.fault

/-- The words that stand for values. -/
def words : List (String × Json) :=
  [("null", .null), ("true", .bool true), ("false", .bool false),
    ("NaN", .float .nan), ("Infinity", .float (.infinite false)),
    ("-Infinity", .float (.infinite true))]

/-- Reads a word that stands for a value. -/
def readWord? (cursor : Cursor) : Option (Json × Cursor) :=
  (words.find? fun word => word.1.toList.isPrefixOf cursor.rest).map fun word =>
    (word.2, cursor.skip word.1.length)

mutual

/-- Reads a value that starts at this place; `room` is how many lists and
objects may still be opened. -/
def readValue : Nat → Nat → Cursor → Except ReadFault (Json × Cursor)
  | 0, _, cursor => .error cursor.fault
  | fuel + 1, room, cursor =>
      match cursor.rest, room with
      | '"' :: _, _ => do
          let (text, next) ← readText cursor.position (cursor.rest.length + 1)
            [] (cursor.skip 1)
          .ok (.str text, next)
      | '[' :: _, 0 | '\x7b' :: _, 0 => .error .tooDeep
      | '[' :: _, room + 1 =>
          let first := (cursor.skip 1).skipSeparators
          match first.rest with
          | ']' :: _ => .ok (.arr [], first.skip 1)
          | _ => readItems fuel room [] first
      | '\x7b' :: _, room + 1 =>
          let first := (cursor.skip 1).skipSeparators
          match first.rest with
          | '\x7d' :: _ => .ok (.obj [], first.skip 1)
          | _ => readFields fuel room [] first
      | _, _ =>
          match readWord? cursor with
          | some found => .ok found
          | none => readNumber cursor

/-- Reads the items of a list from the start of one of them. -/
def readItems : Nat → Nat → List Json → Cursor →
    Except ReadFault (Json × Cursor)
  | 0, _, _, cursor => .error cursor.fault
  | fuel + 1, room, done, cursor => do
      let (item, next) ← readValue fuel room cursor
      let next := next.skipSeparators
      match next.rest with
      | ']' :: _ => .ok (.arr (item :: done).reverse, next.skip 1)
      | ',' :: _ =>
        readItems fuel room (item :: done) (next.skip 1).skipSeparators
      | _ => .error next.fault

/-- Reads the fields of an object from the start of one of them. -/
def readFields : Nat → Nat → List (String × Json) → Cursor →
    Except ReadFault (Json × Cursor)
  | 0, _, _, cursor => .error cursor.fault
  | fuel + 1, room, done, cursor =>
      match cursor.rest with
      | '"' :: _ => do
          let (key, next) ← readText cursor.position (cursor.rest.length + 1) []
            (cursor.skip 1)
          let next := next.skipSeparators
          match next.rest with
          | ':' :: _ =>
              let (value, next) ← readValue fuel room
                (next.skip 1).skipSeparators
              let next := next.skipSeparators
              let done := setField key value done
              match next.rest with
              | '\x7d' :: _ => .ok (.obj done, next.skip 1)
              | ',' :: _ =>
                readFields fuel room done (next.skip 1).skipSeparators
              | _ => .error next.fault
          | _ => .error next.fault
      | _ => .error cursor.fault

end

/-- Reads a text that holds one JSON value and nothing else, up to the cursor
behind the value. -/
def readWhole (text : String) : Except ReadFault (Json × Cursor) := do
  let characters := text.toList
  let start := (Cursor.mk 0 characters false).skipSeparators
  let (value, next) ← readValue (2 * characters.length + 2) openLimit start
  let next := next.skipSeparators
  if next.rest.isEmpty then .ok (value, next) else .error next.fault

/-- Reads a text that holds one JSON value and nothing else. -/
def read (text : String) : Except ReadFault Json := do
  return (← readWhole text).1

/-- Whether a text holds a value with half of a pair on its own in one of its
texts. -/
def isHalved (text : String) : Bool :=
  match readWhole text with
  | .ok (_, next) => next.halved
  | .error _ => false

end Json

end LedgerRules
