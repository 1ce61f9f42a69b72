import LedgerRules.Pattern.Parser
import LedgerRules.Text.CaseMap

/-!
# Matching patterns

A pattern is matched by trying its parts in order and going back to the latest
choice when a part fails.  The rest of the pattern is handed on as a
continuation, so a part succeeds only together with what follows it.  A
repetition goes on past its least count only while it moves through the text,
which bounds the number of its rounds.
-/

namespace LedgerRules

namespace Pattern

/-- The lower case of a character in an alphabet. -/
def lowerIn (ascii : Bool) (code : Nat) : Nat :=
  if ascii then (if 65 ≤ code && code ≤ 90 then code + 32 else code)
    else lowerCase code

/-- Whether a character differs from its lower or upper case in an alphabet. -/
def isCasedIn (ascii : Bool) (code : Nat) : Bool :=
  if ascii then (65 ≤ code && code ≤ 90) || (97 ≤ code && code ≤ 122)
    else isCased code

/-- The small letters that are the same letter as the given one. -/
def lettersOf (ascii : Bool) (small : Nat) : List Nat :=
  small :: (if ascii then [] else capitalMates small)

/-- The characters with the given lower case in an alphabet. -/
def sourcesIn (ascii : Bool) (small : Nat) : List Nat :=
  if ascii then
    (if 65 ≤ small && small ≤ 90 then [] else [small]) ++
      (if 97 ≤ small && small ≤ 122 then [small - 32] else [])
  else lowerSources small

/-- Whether a character belongs to a class in an alphabet. -/
def Category.holds (ascii : Bool) (code : Nat) : Category → Bool
  | .digit => if ascii then 48 ≤ code && code ≤ 57 else isDecimalDigit code
  | .space =>
      if ascii then code = 32 || (9 ≤ code && code ≤ 13) else isBlank
        (Char.ofNat code)
  | .word => (!ascii || code < 128) && isWordCharacter code

/-- The characters up to this code have their letters compared one by one. -/
def basicLimit : Nat := 0xFFFF

namespace SetItem

/-- Whether a character belongs to an item of a set, cases apart. -/
def holds (ascii : Bool) (code : Nat) : SetItem → Bool
  | .code wanted => code = wanted
  | .range first last => first ≤ code && code ≤ last
  | .category kind negated => kind.holds ascii code != negated

/-- Whether a small letter belongs to an item of a set when cases do not count.
Beyond the basic characters a single character counts only as it is written, and
a range with the capital letters as well. -/
def holdsFolded (ascii : Bool) (small : Nat) : SetItem → Bool
  | .code wanted =>
      let wanted' := lowerIn ascii wanted
      if basicLimit < wanted' then small = wanted
      else (lettersOf ascii wanted').contains small
  | .range first last =>
      (lettersOf ascii small).any (fun letter =>
        (sourcesIn ascii letter).any fun source =>
          first ≤ source && source ≤ last && source ≤ basicLimit) ||
      (basicLimit < last &&
        ((first ≤ small && small ≤ last) ||
          (first ≤ upperCase small && upperCase small ≤ last)))
  | .category kind negated => kind.holds ascii small != negated

end SetItem

def sameCharacter (flags : Flags) (wanted code : Nat) : Bool :=
  if flags.ignoreCase && isCasedIn flags.ascii wanted then
    (lettersOf flags.ascii (lowerIn flags.ascii wanted)).contains
      (lowerIn flags.ascii code)
  else code = wanted

/-- Whether a character belongs to a set. -/
def inSet (flags : Flags) (negated : Bool) (items : List SetItem) (code : Nat) :
    Bool :=
  (if flags.ignoreCase then
    items.any fun item => item.holdsFolded flags.ascii
      (lowerIn flags.ascii code)
  else items.any fun item => item.holds flags.ascii code) != negated

/-- A place in the text: the codes before it, the nearest first, the codes after
it, and the ends of the groups matched so far. -/
structure Place where
  before : List Nat
  after : List Nat
  marks : List (Nat × Nat)
deriving Repr

namespace Place

/-- The number of characters before the place. -/
def position (place : Place) : Nat :=
  place.before.length

/-- The place one character further, if that satisfies a test. -/
def step? (test : Nat → Bool) (place : Place) : Option Place :=
  match place.after with
  | code :: rest =>
      if test code then
        some { place with before := code :: place.before, after := rest }
      else none
  | [] => none

/-- The place `count` characters back. -/
def back? : Nat → Place → Option Place
  | 0, place => some place
  | count + 1, place =>
      match place.before with
      | code :: rest =>
        back? count { place with before := rest, after := code :: place.after }
      | [] => none

def lineBreak : Nat := 10

/-- Whether the place lies between a word and something else. -/
def atWordEdge (ascii : Bool) (place : Place) : Bool :=
  (place.before.head?.any (Category.holds ascii · .word)) !=
    (place.after.head?.any (Category.holds ascii · .word))

def meets (flags : Flags) (place : Place) : Anchor → Bool
  | .lineStart =>
      place.before.isEmpty ||
      (flags.multiline && place.before.head? = some lineBreak)
  | .lineEnd =>
      place.after.isEmpty || place.after = [lineBreak] ||
        (flags.multiline && place.after.head? = some lineBreak)
  | .textStart => place.before.isEmpty
  | .textEnd => place.after.isEmpty
  | .wordEdge => place.atWordEdge flags.ascii
  | .noWordEdge =>
      !(place.before.isEmpty && place.after.isEmpty) &&
        !place.atWordEdge flags.ascii

/-- Notes where the group with a number starts. -/
def openGroup (number : Nat) (place : Place) : Place :=
  { place with marks := (2 * number, place.position) :: place.marks }

/-- Notes where the group with a number ends. -/
def closeGroup (number : Nat) (place : Place) : Place :=
  { place with marks := (2 * number + 1, place.position) :: place.marks }

/-- Where the group with a number starts and ends, when it was matched. -/
def group? (number : Nat) (place : Place) : Option (Nat × Nat) :=
  match place.marks.lookup (2 * number),
      place.marks.lookup (2 * number + 1) with
  | some first, some last => if first ≤ last then some (first, last) else none
  | _, _ => none

/-- The codes between two positions before the place. -/
def slice (place : Place) (first last : Nat) : List Nat :=
  ((place.before.reverse ++ place.after).drop first).take (last - first)

/-- The place after the given codes, letters compared with or without case. -/
def stepOver? (flags : Flags) : List Nat → Place → Option Place
  | [], place => some place
  | wanted :: rest, place =>
      let same := fun code =>
        if flags.ignoreCase then
          lowerIn flags.ascii code = lowerIn flags.ascii wanted
        else code = wanted
      (place.step? same).bind (stepOver? flags rest)

end Place

/-- What follows a part: it answers where the whole match ends. -/
abbrev Continuation := Place → Option Place

/-- One part of a pattern, which succeeds together with what follows it. -/
abbrev Part := Place → Continuation → Option Place

/-- Repeats a part as often as possible, or as rarely as possible.  `count`
rounds are done, and the latest one beyond the least count started at
`last?`. -/
def repeatPart (reluctant : Bool) (least : Nat) (most? : Option Nat)
    (part : Part) :
    Nat → Nat → Option Nat → Part
  | 0, _, _ => fun place next => next place
  | fuel + 1, count, last? => fun place next =>
      if count < least then
        part place fun place =>
          repeatPart reluctant least most? part fuel (count + 1) last? place
            next
      else
        let another := fun (_ : Unit) =>
          if most?.all (count < ·) && last? ≠ some place.position then
            part place fun after =>
              repeatPart reluctant least most? part fuel (count + 1)
                (some place.position)
                after next
          else none
        if reluctant then (next place).orElse another
        else (another ()).orElse fun _ => next place

/-- Repeats a part as often as possible and never gives a round back. -/
def repeatFirm (least : Nat) (most? : Option Nat) (part : Part) :
    Nat → Nat → Place → Option Place
  | 0, _, place => some place
  | fuel + 1, count, place =>
      if count < least then
        (part place some).bind (repeatFirm least most? part fuel (count + 1))
      else if most?.all (count < ·) then
        match part place some with
        | some after =>
            if after.position = place.position then some after
            else repeatFirm least most? part fuel (count + 1) after
        | none => some place
      else some place

/-- Matches a part of a pattern; `widths` are the widths of its groups. -/
def Tree.match (widths : Nat → Nat × Nat) : Tree → Flags → Part
  | .empty, _ => fun place next => next place
  | .seq first rest, flags => fun place next =>
      first.match widths flags place fun place =>
        rest.match widths flags place next
  | .either left right, flags => fun place next =>
      (left.match widths flags place next).orElse fun _ =>
        right.match widths flags place next
  | .code wanted, flags =>
      fun place next => (place.step? (sameCharacter flags wanted)).bind next
  | .otherThan wanted, flags => fun place next =>
      (place.step? fun code => !sameCharacter flags wanted code).bind next
  | .anyCharacter, flags => fun place next =>
      (place.step? fun code => flags.dotAll || code ≠ Place.lineBreak).bind next
  | .set negated items, flags => fun place next =>
      (place.step? (inSet flags negated items)).bind next
  | .anchor kind, flags =>
      fun place next => if place.meets flags kind then next place else none
  | .group number? added removed body, flags => fun place next =>
      let flags := flags.within added removed
      match number? with
      | none => body.match widths flags place next
      | some number =>
          body.match widths flags (place.openGroup number) fun place =>
            next (place.closeGroup number)
  | .atomic body, flags =>
      fun place next => (body.match widths flags place some).bind next
  | .look behind negated body, flags => fun place next =>
      let start := if behind then place.back? (body.width widths).1
        else some place
      match start.bind fun start => body.match widths flags start some with
      | some found =>
        if negated then none else next { place with marks := found.marks }
      | none => if negated then next place else none
  | .repeated greed least most? body, flags => fun place next =>
      let fuel := least + place.after.length + 2
      match greed with
      | .greedy =>
        repeatPart false least most? (body.match widths flags) fuel 0 none place
        next
      | .lazy => repeatPart true least most? (body.match widths flags) fuel 0
        none place next
      | .possessive =>
          (repeatFirm least most? (body.match widths flags) fuel 0 place).bind
            next
  | .reference number, flags => fun place next =>
      match place.group? number with
      | some (first, last) =>
        (place.stepOver? flags (place.slice first last)).bind next
      | none => none
  | .conditional number present absent, flags => fun place next =>
      if (place.group? number).isSome then present.match widths flags place next
      else absent.match widths flags place next

/-- Whether a pattern describes a part of the text that starts at the place or
after it. -/
def foundFrom (start : Place → Option Place) : List Nat → List Nat → Bool
  | before, [] => (start ⟨before, [], []⟩).isSome
  | before, code :: after =>
      (start ⟨before, code :: after, []⟩).isSome || foundFrom start
        (code :: before) after

/-- Whether a pattern describes some part of a text. -/
def foundIn (pattern : Pattern) (text : String) : Bool :=
  let widths := fun number =>
    match number with
    | 0 => (0, 0)
    | index + 1 => pattern.widths.getD index (0, 0)
  foundFrom (fun place => pattern.tree.match widths pattern.flags place some) []
    (text.toList.map Char.toNat)

end Pattern

end LedgerRules
