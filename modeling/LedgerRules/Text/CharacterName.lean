import LedgerRules.Number.Numeral
import LedgerRules.Text.CodeRange
import LedgerRules.Text.NameTable

/-!
# Names of characters

Patterns may call a character by its Unicode name or by one of its aliases, in
any mixture of cases.  The names of Hangul syllables and of unified CJK
ideographs are not in the table but follow rules, and are written in capitals.
-/

namespace LedgerRules

/-- Whether a character is a digit to base sixteen. -/
def isHexDigit (character : Char) : Bool :=
  isAsciiDigit character ||
    (let small := asciiLower character
     'a' ≤ small && small ≤ 'f')

/-- The number that digits denote to a base up to sixteen. -/
def numberToBase (base : Nat) (digits : List Char) : Nat :=
  digits.foldl (fun number digit =>
    base * number +
      (if isAsciiDigit digit then digit.toNat - 48
        else (asciiLower digit).toNat - 87)) 0

/-- A small ASCII letter as a capital one. -/
def asciiUpper (character : Char) : Char :=
  if character.isLower then Char.ofNat (character.toNat - 32) else character

/-- The signs that a sign of the table stands for, the last one first. -/
def signsOf (sign : Char) : List Char :=
  if sign.isLower then
    (namePhrases.getD (sign.toNat - 'a'.toNat) "").toList.reverse
  else [sign]

/-- Looks for a name in what is left of a run, where a code point has got the
name read so far.  Both names are written from their last character on. -/
def nameInRun? (wanted : List Char) :
    List Char → Nat → List Char → Option Nat
  | [], code, name => if name = wanted then some code else none
  | sign :: signs, code, name =>
      if sign < 'À' then nameInRun? wanted signs code (signsOf sign ++ name)
      else if name = wanted then some code
      else
        let kept := sign.toNat - 'À'.toNat
        nameInRun? wanted signs (code + 1) (name.drop (name.length - kept))

/-- The code point that the table has for a name in capitals. -/
def nameInTable? (name : List Char) : Option Nat :=
  let wanted := name.reverse
  nameRuns.findSome? fun run =>
    nameInRun? wanted (run.2.flatMap String.toList) run.1 []

def hangulInitials : List String :=
  ["G", "GG", "N", "D", "DD", "R", "M", "B", "BB", "S", "SS", "", "J", "JJ",
    "C", "K", "T", "P", "H"]

def hangulVowels : List String :=
  ["A", "AE", "YA", "YAE", "EO", "E", "YEO", "YE", "O", "WA", "WAE", "OE",
    "YO", "U", "WEO", "WE", "WI", "YU", "EU", "YI", "I"]

def hangulFinals : List String :=
  ["", "G", "GG", "GS", "N", "NJ", "NH", "D", "L", "LG", "LM", "LB", "LS", "LT",
    "LP", "LH", "M", "B", "BS", "S", "SS", "NG", "J", "C", "K", "T", "P", "H"]

/-- The longer one of two parts of a syllable, and the first one of equals. -/
def longerPart (best? : Option (String × Nat)) (part : String × Nat) :
    Option (String × Nat) :=
  match best? with
  | some best => if best.1.length < part.1.length then some part else some best
  | none => some part

/-- The longest of some parts of a syllable that a name starts with: its place
among them, and the rest of the name. -/
def hangulPart? (parts : List String) (name : List Char) :
    Option (Nat × List Char) :=
  let starts := parts.zipIdx.filter fun part => part.1.toList.isPrefixOf name
  let longest? := starts.foldl longerPart none
  longest?.map fun part => (part.2, name.drop part.1.length)

def hangulBase : Nat := 0xAC00

/-- The code point of a Hangul syllable, from its name. -/
def hangulSyllable? (name : List Char) : Option Nat := do
  let (initial, name) ← hangulPart? hangulInitials name
  let (vowel, name) ← hangulPart? hangulVowels name
  let (final, name) ← hangulPart? hangulFinals name
  guard name.isEmpty
  let pairs := initial * hangulVowels.length + vowel
  return hangulBase + pairs * hangulFinals.length + final

def unifiedIdeographs : List (Nat × Nat) :=
  [(0x3400, 0x4DBF), (0x4E00, 0x9FFF), (0x20000, 0x2A6DF), (0x2A700, 0x2B738),
    (0x2B740, 0x2B81D), (0x2B820, 0x2CEA1), (0x2CEB0, 0x2EBE0),
    (0x30000, 0x3134A)]

/-- The code point of a unified ideograph, from its digits to base sixteen. -/
def unifiedIdeograph? (digits : List Char) : Option Nat := do
  guard (digits.length = 4 ∨ digits.length = 5)
  guard (digits.all fun digit => isHexDigit digit && !digit.isLower)
  let code := numberToBase 16 digits
  guard (inRanges code unifiedIdeographs)
  return code

/-- The code point of the character with the given name. -/
def characterOfName? (name : String) : Option Nat :=
  let signs := name.toList
  let syllable := "HANGUL SYLLABLE ".toList
  let ideograph := "CJK UNIFIED IDEOGRAPH-".toList
  if syllable.isPrefixOf signs then hangulSyllable? (signs.drop syllable.length)
  else if ideograph.isPrefixOf signs then
    unifiedIdeograph? (signs.drop ideograph.length)
  else nameInTable? (signs.map asciiUpper)

end LedgerRules
