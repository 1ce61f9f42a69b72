import LedgerRules.Text.CodeRange

/-!
# Blank characters

Text is trimmed of blank characters at both ends.  The blank characters are the
ones with the Unicode property White_Space and the four information separators
U+001C to U+001F; numbers in payloads are trimmed of white space only.
-/

namespace LedgerRules

/-- Unicode property White_Space. -/
def whiteSpaceRanges : List (Nat × Nat) :=
   [(9, 0xD), (0x20, 0x20), (0x85, 0x85), (0xA0, 0xA0), (0x1680, 0x1680),
     (0x2000, 0x200A),
    (0x2028, 0x2029), (0x202F, 0x202F), (0x205F, 0x205F), (0x3000, 0x3000)]

def isWhiteSpace (character : Char) : Bool :=
  inRanges character.toNat whiteSpaceRanges

/-- Whether a character is blank: white space or an information separator. -/
def isBlank (character : Char) : Bool :=
  (0x1C ≤ character.toNat && character.toNat ≤ 0x1F) || isWhiteSpace character

/-- A list without the elements at its ends that satisfy a test. -/
def trimList {Element : Type} (test : Element → Bool)
    (elements : List Element) :
    List Element :=
  (((elements.dropWhile test).reverse).dropWhile test).reverse

/-- Text without the blank characters at its ends. -/
def trimBlank (text : String) : String :=
  String.ofList (trimList isBlank text.toList)

end LedgerRules
