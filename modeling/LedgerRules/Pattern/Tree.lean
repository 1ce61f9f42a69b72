/-!
# Patterns as trees

A pattern describes texts.  `Tree` holds its parts; a sequence is a chain of
`seq` nodes that ends in `empty`.  `Tree.width` bounds the length of the texts
that a pattern describes, which is what looking behind needs.
-/

namespace LedgerRules

namespace Pattern

/-- How letters, lines and classes of characters are read in a part of a
pattern. -/
structure Flags where
  ignoreCase : Bool := false
  multiline : Bool := false
  dotAll : Bool := false
  verbose : Bool := false
  ascii : Bool := false
  unicode : Bool := false
  templated : Bool := false
  locale : Bool := false
deriving DecidableEq, Repr, Inhabited

namespace Flags

/-- The flags in either set. -/
def union (left right : Flags) : Flags where
  ignoreCase := left.ignoreCase || right.ignoreCase
  multiline := left.multiline || right.multiline
  dotAll := left.dotAll || right.dotAll
  verbose := left.verbose || right.verbose
  ascii := left.ascii || right.ascii
  unicode := left.unicode || right.unicode
  templated := left.templated || right.templated
  locale := left.locale || right.locale

/-- The flags in both sets. -/
def inter (left right : Flags) : Flags where
  ignoreCase := left.ignoreCase && right.ignoreCase
  multiline := left.multiline && right.multiline
  dotAll := left.dotAll && right.dotAll
  verbose := left.verbose && right.verbose
  ascii := left.ascii && right.ascii
  unicode := left.unicode && right.unicode
  templated := left.templated && right.templated
  locale := left.locale && right.locale

/-- The flags that are in the first set and not in the second. -/
def diff (left right : Flags) : Flags where
  ignoreCase := left.ignoreCase && !right.ignoreCase
  multiline := left.multiline && !right.multiline
  dotAll := left.dotAll && !right.dotAll
  verbose := left.verbose && !right.verbose
  ascii := left.ascii && !right.ascii
  unicode := left.unicode && !right.unicode
  templated := left.templated && !right.templated
  locale := left.locale && !right.locale

/-- No flag at all. -/
def none : Flags := {}

/-- The flags that choose between alphabets; at most one of them holds. -/
def alphabets : Flags := { ascii := true, unicode := true, locale := true }

def ofLetter? : Char → Option Flags
  | 'i' => some { ignoreCase := true }
  | 'L' => some { locale := true }
  | 'm' => some { multiline := true }
  | 's' => some { dotAll := true }
  | 'x' => some { verbose := true }
  | 'a' => some { ascii := true }
  | 't' => some { templated := true }
  | 'u' => some { unicode := true }
  | _ => Option.none

/-- The flags inside a group that adds some flags and drops others.  An added
alphabet replaces the one around it. -/
def within (outer added removed : Flags) : Flags :=
  let kept := if added.inter alphabets = none then outer
    else outer.diff alphabets
  (kept.union added).diff removed

end Flags

/-- Classes of characters that have a letter of their own. -/
inductive Category where
  | digit
  | space
  | word
deriving DecidableEq, Repr

/-- What may stand in a set of characters, by code point. -/
inductive SetItem where
  | code (code : Nat)
  | range (first last : Nat)
  | category (kind : Category) (negated : Bool)
deriving DecidableEq, Repr

/-- Conditions on a place in the text. -/
inductive Anchor where
  | lineStart
  | lineEnd
  | textStart
  | textEnd
  | wordEdge
  | noWordEdge
deriving DecidableEq, Repr

/-- How often and in which order repetitions are tried. -/
inductive Greed where
  | greedy
  | lazy
  | possessive
deriving DecidableEq, Repr

/-- What a pattern says, as a tree. -/
inductive Tree where
  | empty
  | seq (first rest : Tree)
  | either (left right : Tree)
  | code (code : Nat)
  | otherThan (code : Nat)
  | anyCharacter
  | set (negated : Bool) (items : List SetItem)
  | anchor (kind : Anchor)
  | group (number? : Option Nat) (added removed : Flags) (body : Tree)
  | atomic (body : Tree)
  | look (behind negated : Bool) (body : Tree)
  | repeated (greed : Greed) (least : Nat) (most? : Option Nat) (body : Tree)
  | reference (number : Nat)
  | conditional (number : Nat) (present absent : Tree)
deriving DecidableEq, Repr, Inhabited

namespace Tree

/-- A list of parts as one sequence. -/
def ofList : List Tree → Tree
  | [] => .empty
  | part :: rest => .seq part (ofList rest)

/-- The parts of a sequence. -/
def parts : Tree → List Tree
  | .empty => []
  | .seq first rest => first :: rest.parts
  | tree => [tree]

/-- A choice between several sequences, the earlier ones first. -/
def choice : List Tree → Tree
  | [] => .empty
  | [branch] => branch
  | branch :: rest => .either branch (choice rest)

/-- No width is counted past this one. -/
def widthLimit : Nat := Nat.pow 2 64

/-- The least and the greatest length of the texts that a pattern describes, up
to the limit; `widths` holds the widths of the groups that may be referred
to. -/
def width (widths : Nat → Nat × Nat) : Tree → Nat × Nat
  | .empty => (0, 0)
  | .seq first rest =>
      let (low, high) := first.width widths
      let (low', high') := rest.width widths
      (min (low + low') widthLimit, min (high + high') widthLimit)
  | .either left right =>
      let (low, high) := left.width widths
      let (low', high') := right.width widths
      (min low low', max high high')
  | .code _ | .otherThan _ | .anyCharacter | .set _ _ => (1, 1)
  | .anchor _ | .look _ _ _ => (0, 0)
  | .group _ _ _ body | .atomic body => body.width widths
  | .repeated _ least most? body =>
      let (low, high) := body.width widths
      (min (low * least) widthLimit,
        match most? with
        | some most => min (high * most) widthLimit
        | none => if high = 0 then 0 else widthLimit)
  | .reference number => widths number
  | .conditional _ present absent =>
      let (low, high) := present.width widths
      let (low', high') := absent.width widths
      (min low low', max high high')

/-- The number of calls that are open at the deepest place when a tree is gone
through: one for each part that holds parts, and one for a choice.  The border
of a group without number and flags is none. -/
def calls : Tree → Nat
  | .empty | .code _ | .otherThan _ | .anyCharacter | .set _ _ | .anchor _
  | .reference _ => 0
  | .seq first rest => max first.calls rest.calls
  | .either left (.either middle right) =>
      max (left.calls + 1) (Tree.either middle right).calls
  | .either left right => max left.calls right.calls + 1
  | .group number? added removed body =>
      if number? = none && added = Flags.none && removed = Flags.none then
        body.calls
      else body.calls + 1
  | .atomic body | .look _ _ body | .repeated _ _ _ body => body.calls + 1
  | .conditional _ present absent => max present.calls absent.calls + 1

end Tree

/-- How many calls a reader may have open at once.  The calls of its own callers
count as well, so that a pattern at the limit is read or not by where it is read
from; this is the limit of a reader that is called from the outside. -/
def callLimit : Nat := 990

end Pattern

end LedgerRules
