import LedgerRules.Pattern.Fault
import LedgerRules.Pattern.Tree

/-!
# Scanning pattern text

A pattern is scanned token by token.  A backslash and the character after it are
one token, so that a backslash at the very end is a fault as soon as the scanner
comes to stand before it.
-/

namespace LedgerRules

namespace Pattern

/-- A character of a pattern, or a backslash with the character after it. -/
inductive Token where
  | plain (character : Char)
  | escape (character : Char)
deriving DecidableEq, Repr

namespace Token

def characters : Token → List Char
  | .plain character => [character]
  | .escape character => ['\\', character]

def text (token : Token) : String :=
  String.ofList token.characters

/-- The number of characters of a token. -/
def length (token : Token) : Nat :=
  token.characters.length

end Token

/-- The scanner's place in the text and what it has learnt so far: the global
flags, the numbers of named groups, the widths of the groups already closed, the
number of groups before the outermost group that looks behind, the groups that
conditions ask for by number, with the place of the first question, and the
number of calls that the parts around the place hold open. -/
structure Progress where
  position : Nat
  rest : List Char
  flags : Flags := {}
  names : List (String × Nat) := []
  widths : List (Option (Nat × Nat)) := []
  groupsBefore? : Option Nat := none
  asked : List (Nat × Nat) := []
  calls : Nat := 0
deriving Repr

/-- A step of scanning, which may find a fault. -/
abbrev Scan := StateT Progress (Except Fault)

namespace Progress

def next? (progress : Progress) : Option Token :=
  match progress.rest with
  | [] => none
  | '\\' :: character :: _ => some (.escape character)
  | character :: _ => some (.plain character)

/-- The number that the next group gets. -/
def nextNumber (progress : Progress) : Nat :=
  progress.widths.length + 1

/-- The width of a group that is closed. -/
def width? (progress : Progress) (number : Nat) : Option (Nat × Nat) :=
  match number with
  | 0 => none
  | index + 1 => (progress.widths[index]?).join

/-- The widths of groups, for groups that are closed. -/
def widthOf (progress : Progress) (number : Nat) : Nat × Nat :=
  (progress.width? number).getD (0, 0)

end Progress

namespace Scan

/-- Refuses the text with a complaint about the place `back` characters before
the scanner. -/
def refuse {Result : Type} (complaint : Complaint) (back : Nat) :
    Scan Result := do
  let progress ← get
  throw (.malformed complaint (some (progress.position - back)))

/-- Refuses the text with a complaint about the given place. -/
def refuseAt {Result : Type} (complaint : Complaint) (position : Nat) :
    Scan Result :=
  throw (.malformed complaint (some position))

/-- Checks that no lone backslash stands at the scanner's place. -/
def settle : Scan Unit := do
  let progress ← get
  if progress.rest = ['\\'] then refuse .escapeAtEnd 0

def next? : Scan (Option Token) := do
  return (← get).next?

def take? : Scan (Option Token) := do
  match (← get).next? with
  | none => return none
  | some token =>
      modify fun progress =>
        { progress with
          position := progress.position + token.length
          rest := progress.rest.drop token.length }
      settle
      return some token

/-- Takes the token at the scanner's place if it is the given character. -/
def accept (character : Char) : Scan Bool := do
  if (← next?) = some (.plain character) then
    let _ ← take?
    return true
  else return false

/-- Takes at most `count` characters that satisfy a test. -/
def takeWhile (test : Char → Bool) : Nat → Scan (List Char)
  | 0 => return []
  | count + 1 => do
      match ← next? with
      | some (.plain character) =>
          if test character then
            let _ ← take?
            return character :: (← takeWhile test count)
          else return []
      | _ => return []

def takeAllWhile (test : Char → Bool) : Scan (List Char) := do
  takeWhile test (← get).rest.length

/-- Takes the characters before a terminator, and the terminator; `done` holds
the ones already taken. -/
def takeUntilFrom (terminator : Char) (kind : String) :
    Nat → List Char → Scan String
  | 0, _ => refuse (.missingName kind) 0
  | fuel + 1, done => do
      match ← take? with
      | none =>
          if done.isEmpty then refuse (.missingName kind) 0
          else refuse (.unterminatedName terminator.toString) done.length
      | some token =>
          if token = .plain terminator then
            if done.isEmpty then refuse (.missingName kind) 1
            else return String.ofList done
          else takeUntilFrom terminator kind fuel (done ++ token.characters)

/-- Takes a name that ends before a terminator, and the terminator. -/
def takeUntil (terminator : Char) (kind : String) : Scan String := do
  takeUntilFrom terminator kind ((← get).rest.length + 1) []

/-- Scans a nested part, which holds the given number of calls open. -/
def nested {Result : Type} (calls : Nat) (scan : Scan Result) :
    Scan Result := do
  let outer := (← get).calls
  if callLimit < outer + calls then throw .tooDeep
  modify fun progress => { progress with calls := outer + calls }
  let result ← scan
  modify fun progress => { progress with calls := outer }
  return result

/-- Checks that inside a group that looks behind a question or a reference goes
to a closed group from before it. -/
def checkBehind (number : Nat) : Scan Unit := do
  let progress ← get
  match progress.groupsBefore? with
  | none => return ()
  | some first =>
      if (progress.width? number).isNone then refuse .openGroup 0
      else if first ≤ number then refuse .openLookBehind 0
      else return ()

end Scan

end Pattern

end LedgerRules
