import LedgerRules.Text.Printable

/-!
# Faults of patterns

A text that is no pattern is refused with a complaint, and with the place in the
text where the complaint arose when there is one.  Some refusals are of another
kind: a count of too many digits to be read, a count or a code beyond all
bounds, parts nested too deeply, and two global choices of alphabet.
-/

namespace LedgerRules

namespace Pattern

/-- What is wrong with a pattern. -/
inductive Complaint where
  | escapeAtEnd
  | badEscape (escape : String)
  | incompleteEscape (escape : String)
  | missingBrace
  | undefinedName (name : String)
  | octalTooLarge (escape : String)
  | openGroup
  | openLookBehind
  | unknownNumber (number : Nat)
  | unterminatedSet
  | badRange (first last : String)
  | countsReversed
  | nothingToRepeat
  | repeatedRepeat
  | unexpectedEnd
  | missingName (kind : String)
  | unterminatedName (terminator : String)
  | badName (name : String)
  | unknownName (name : String)
  | repeatedName (name : String) (number earlier : Nat)
  | unknownExtension (text : String)
  | unterminatedComment
  | unterminatedGroup
  | zeroNumber
  | thirdBranch
  | lateGlobalFlags
  | localeFlag
  | clashingFlags
  | missingFlagEnd
  | missingFlag
  | missingColon
  | unknownFlag
  | globalFlagOn
  | globalFlagOff
  | alphabetOff
  | flagOnAndOff
  | unbalanced
  | looksTooFarBehind
  | variableLookBehind
  | templatedRepeat (operator : String)
deriving DecidableEq, Repr

namespace Complaint

/-- The wording of a complaint. -/
def message : Complaint → String
  | escapeAtEnd => "bad escape (end of pattern)"
  | badEscape escape => "bad escape " ++ escape
  | incompleteEscape escape => "incomplete escape " ++ escape
  | missingBrace => "missing \x7b"
  | undefinedName name => "undefined character name " ++ quoted name
  | octalTooLarge escape =>
      "octal escape value " ++ escape ++ " outside of range 0-0o377"
  | openGroup => "cannot refer to an open group"
  | openLookBehind =>
      "cannot refer to group defined in the same lookbehind subpattern"
  | unknownNumber number => "invalid group reference " ++ toString number
  | unterminatedSet => "unterminated character set"
  | badRange first last => "bad character range " ++ first ++ "-" ++ last
  | countsReversed => "min repeat greater than max repeat"
  | nothingToRepeat => "nothing to repeat"
  | repeatedRepeat => "multiple repeat"
  | unexpectedEnd => "unexpected end of pattern"
  | missingName kind => "missing " ++ kind
  | unterminatedName terminator =>
      "missing " ++ terminator ++ ", unterminated name"
  | badName name => "bad character in group name " ++ quoted name
  | unknownName name => "unknown group name " ++ quoted name
  | repeatedName name number earlier =>
      "redefinition of group name " ++ quoted name ++ " as group " ++
        toString number ++
        "; was group " ++ toString earlier
  | unknownExtension text => "unknown extension ?" ++ text
  | unterminatedComment => "missing ), unterminated comment"
  | unterminatedGroup => "missing ), unterminated subpattern"
  | zeroNumber => "bad group number"
  | thirdBranch => "conditional backref with more than two branches"
  | lateGlobalFlags => "global flags not at the start of the expression"
  | localeFlag => "bad inline flags: cannot use 'L' flag with a str pattern"
  | clashingFlags => "bad inline flags: flags 'a', 'u' and 'L' are incompatible"
  | missingFlagEnd => "missing -, : or )"
  | missingFlag => "missing flag"
  | missingColon => "missing :"
  | unknownFlag => "unknown flag"
  | globalFlagOn => "bad inline flags: cannot turn on global flag"
  | globalFlagOff => "bad inline flags: cannot turn off global flag"
  | alphabetOff => "bad inline flags: cannot turn off flags 'a', 'u' and 'L'"
  | flagOnAndOff => "bad inline flags: flag turned on and off"
  | unbalanced => "unbalanced parenthesis"
  | looksTooFarBehind => "looks too much behind"
  | variableLookBehind => "look-behind requires fixed-width pattern"
  | templatedRepeat operator =>
      "internal: unsupported template operator " ++ operator

end Complaint

/-- Why a text is no pattern. -/
inductive Fault where
  | malformed (complaint : Complaint) (position? : Option Nat)
  | longCount (digits : Nat)
  | tooLarge
  | tooDeep
  | clashingAlphabets
deriving DecidableEq, Repr

namespace Fault

/-- Line and column of a place in a text, both counted from one. -/
def lineAndColumn (characters : List Char) (position : Nat) : Nat × Nat :=
  let before := characters.take position
  (before.count '\n' + 1, (before.reverse.takeWhile (· ≠ '\n')).length + 1)

/-- A complaint with its place in the text, and the line and column of the place
when the text has several lines. -/
def describe (text : String) (complaint : Complaint) : Option Nat → String
  | none => complaint.message
  | some position =>
      let characters := text.toList
      let (line, column) := lineAndColumn characters position
      complaint.message ++ " at position " ++ toString position ++
        (if characters.contains '\n' then
          " (line " ++ toString line ++ ", column " ++ toString column ++ ")"
        else "")

end Fault

end Pattern

end LedgerRules
