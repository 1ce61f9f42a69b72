import LedgerRules.Pattern.Escape

/-!
# Reading patterns

`parse` turns the text of a pattern into its tree and its global flags, or finds
the first fault.  The text is read from left to right; what can only be checked
at its end — alphabets, questions for groups that never came, the depth of the
tree, widths of parts that look behind — is checked there.
-/

namespace LedgerRules

namespace Pattern

/-- No repetition count may reach this number. -/
def countBound : Nat := 4294967295

/-- No group may have a number as great as this one. -/
def groupBound : Nat := 1073741823

/-- Whether a character is skipped between the parts of a verbose pattern. -/
def isVerboseBlank (character : Char) : Bool :=
  character = ' ' || (9 ≤ character.toNat && character.toNat ≤ 13)

/-- The kind of an escaped item, as a part of a range: only a single character
can end one. -/
def rangeEnd? : SetItem → Option Nat
  | .code code => some code
  | _ => none

/-- Whether the part is compared by what it says when branches are joined. -/
def isSimple : Tree → Bool
  | .code _ | .otherThan _ | .anyCharacter | .set _ _ | .anchor _
  | .reference _ => true
  | _ => false

/-- The first part of a list of parts, if the others can start with an equal
one. -/
def simpleHead? : List Tree → Option Tree
  | part :: _ => if isSimple part then some part else none
  | [] => none

/-- The items of a set that stands for a branch of one character. -/
def branchItems? : List Tree → Option (List SetItem)
  | [.code code] => some [.code code]
  | [.set false items] => some items
  | _ => none

/-- Several branches as one sequence: what all of them start with stands once in
front, and branches of one character each become a set. -/
def joinBranches : Nat → List (List Tree) → List Tree
  | 0, branches => [.choice (branches.map .ofList)]
  | fuel + 1, branches =>
      match branches.head?.bind simpleHead? with
      | some head =>
          if branches.all (fun branch => branch.head? = some head) then
            head :: joinBranches fuel (branches.map List.tail)
          else setOrChoice branches
      | none => setOrChoice branches
where
  setOrChoice (branches : List (List Tree)) : List Tree :=
    match branches.mapM branchItems? with
    | some items => [.set false items.flatten]
    | none => [.choice (branches.map .ofList)]

/-- The parts of a sequence without the borders of plain groups. -/
def unwrapGroups (parts : List Tree) : List Tree :=
  parts.flatMap fun part =>
    match part with
    | .group none added removed body =>
        if added = Flags.none && removed = Flags.none then body.parts
          else [part]
    | _ => [part]

namespace Scan

/-- Takes a character or an escape of a set that is already under the
scanner. -/
def setItem (token : Token) : Scan SetItem :=
  match token with
  | .plain character => return .code character.toNat
  | .escape letter => setEscape letter

/-- Reads the items of a set up to its closing bracket; `start` is the place of
the opening one. -/
def setItems (start : Nat) : Nat → List SetItem → Scan (List SetItem)
  | 0, _ => refuseAt .unterminatedSet start
  | fuel + 1, done => do
      match ← take? with
      | none => refuseAt .unterminatedSet start
      | some token =>
          if token = .plain ']' && !done.isEmpty then return done
          else
            let first ← setItem token
            if ← accept '-' then
              match ← take? with
              | none => refuseAt .unterminatedSet start
              | some (.plain ']') => return done ++ [first, .code '-'.toNat]
              | some last =>
                  let second ← setItem last
                  match rangeEnd? first, rangeEnd? second with
                  | some low, some high =>
                      if high < low then
                        refuse (.badRange token.text last.text)
                          (token.length + 1 + last.length)
                      else setItems start fuel (done ++ [.range low high])
                  | _, _ =>
                      refuse (.badRange token.text last.text)
                        (token.length + 1 + last.length)
            else setItems start fuel (done ++ [first])

/-- Reads a set of characters after its opening bracket. -/
def characterSet : Scan Tree := do
  let start := (← get).position - 1
  let negated ← accept '^'
  let items := (← setItems start ((← get).rest.length + 1) []).eraseDups
  match items with
  | [.code code] => return if negated then .otherThan code else .code code
  | _ => return .set negated items

/-- Refuses a count that is written with too many digits, or is too large. -/
def checkCount (digits : List Char) : Scan Unit := do
  if longestWhole < digits.length then throw (.longCount digits.length)
  else if countBound ≤ digitsValue digits then throw .tooLarge

/-- The bounds that a repetition mark sets, or nothing when an opening brace
stands for itself. -/
def counts? (mark : Char) : Scan (Option (Nat × Option Nat)) := do
  match mark with
  | '?' => return some (0, some 1)
  | '*' => return some (0, none)
  | '+' => return some (1, none)
  | _ =>
      let before ← get
      if (← next?) = some (.plain '\x7d') then return none
      else
        let low ← takeAllWhile isAsciiDigit
        let high ← if ← accept ',' then takeAllWhile isAsciiDigit else pure low
        if ← accept '\x7d' then
          checkCount low
          checkCount high
          let most? := if high.isEmpty then none else some (digitsValue high)
          if most?.any (· < digitsValue low) then
            refuseAt .countsReversed before.position
          else return some (digitsValue low, most?)
        else
          set before
          return none

/-- How greedy a repetition is, by the mark after it. -/
def greed : Scan Greed := do
  if ← accept '?' then return .lazy
  else if ← accept '+' then return .possessive
  else return .greedy

/-- Reads a repetition after its mark and applies it to the last of the
parts. -/
def repetition (mark : Char) (done : List Tree) : Scan (List Tree) := do
  let place := (← get).position - 1
  match ← counts? mark with
  | none => return done ++ [.code mark.toNat]
  | some (least, most?) =>
      match done.getLast? with
      | none | some (.anchor _) => refuseAt .nothingToRepeat place
      | some (.repeated ..) => refuseAt .repeatedRepeat place
      | some part =>
        return done.dropLast ++ [.repeated (← greed) least most? part]

/-- What is wrong when a letter is no flag. -/
def flagComplaint (token : Token) (missing : Complaint) : Complaint :=
  match token with
  | .plain character =>
      if isLetter character.toNat then .unknownFlag else missing
  | .escape _ => missing

/-- Reads the flags to be added, from one whose letter was just taken, up to the
character that ends them. -/
def addedFlags : Nat → Flags → Char → Scan (Flags × Char)
  | 0, _, _ => refuse .missingFlagEnd 0
  | fuel + 1, added, letter => do
      let flag := (Flags.ofLetter? letter).getD {}
      if flag.locale then refuse .localeFlag 0
      else
        let added := added.union flag
        if flag.inter Flags.alphabets ≠ Flags.none &&
          added.inter Flags.alphabets ≠ flag then
          refuse .clashingFlags 0
        else match ← take? with
          | none => refuse .missingFlagEnd 0
          | some token =>
              match token with
              | .plain ')' => return (added, ')')
              | .plain '-' => return (added, '-')
              | .plain ':' => return (added, ':')
              | .plain character =>
                  if (Flags.ofLetter? character).isSome then
                    addedFlags fuel added character
                  else refuse (flagComplaint token .missingFlagEnd) token.length
              | .escape _ => refuse .missingFlagEnd token.length

/-- Reads the flags to be dropped up to the colon after them. -/
def removedFlags : Nat → Flags → Char → Scan Flags
  | 0, _, _ => refuse .missingColon 0
  | fuel + 1, removed, letter => do
      let flag := (Flags.ofLetter? letter).getD {}
      if flag.inter Flags.alphabets ≠ Flags.none then refuse .alphabetOff 0
      else
        let removed := removed.union flag
        match ← take? with
        | none => refuse .missingColon 0
        | some (.plain ':') => return removed
        | some token =>
            match token with
            | .plain character =>
                if (Flags.ofLetter? character).isSome then
                  removedFlags fuel removed character
                else refuse (flagComplaint token .missingColon) token.length
            | .escape _ => refuse .missingColon token.length

/-- Reads the flags to be dropped after a minus sign. -/
def removedFlagsAfterMinus : Scan Flags := do
  match ← take? with
  | none => refuse .missingFlag 0
  | some token =>
      match token with
      | .plain character =>
          if (Flags.ofLetter? character).isSome then
            removedFlags ((← get).rest.length + 1) {} character
          else refuse (flagComplaint token .missingFlag) token.length
      | .escape _ => refuse .missingFlag token.length

/-- Reads flags from their first character.  The answer is the flags to be added
and dropped in a group, or nothing when the flags hold for the whole pattern. -/
def inlineFlags (first : Char) : Scan (Option (Flags × Flags)) := do
  let (added, closing) ←
    if first = '-' then pure (({} : Flags), '-')
    else addedFlags ((← get).rest.length + 1) {} first
  if closing = ')' then
    modify fun progress => { progress with flags := progress.flags.union added }
    return none
  else if added.templated then refuse .globalFlagOn 1
  else
    let removed ← if closing = '-' then removedFlagsAfterMinus else pure {}
    if removed.templated then refuse .globalFlagOff 1
    else if added.inter removed ≠ Flags.none then refuse .flagOnAndOff 1
    else return some (added, removed)

/-- Gives the next group its number, and its name when it has one. -/
def openGroup (name? : Option String) : Scan Nat := do
  let progress ← get
  let number := progress.nextNumber
  modify fun progress => { progress with widths := progress.widths ++ [none] }
  match name? with
  | none => return number
  | some name =>
      match progress.names.lookup name with
      | some earlier =>
        refuse (.repeatedName name number earlier) (name.length + 1)
      | none =>
          modify fun progress =>
            { progress with names := progress.names ++ [(name, number)] }
          return number

/-- Closes a group and keeps its width. -/
def closeGroup (number : Nat) (body : Tree) : Scan Unit :=
  modify fun progress =>
    let width := body.width progress.widthOf
    { progress with widths := progress.widths.set (number - 1) (some width) }

def groupName (terminator : Char) : Scan String := do
  let name ← takeUntil terminator "group name"
  if isName name then return name else refuse (.badName name) (name.length + 1)

def namedReference : Scan Tree := do
  let name ← groupName ')'
  match (← get).names.lookup name with
  | none => refuse (.unknownName name) (name.length + 1)
  | some number =>
      if ((← get).width? number).isNone then refuse .openGroup (name.length + 1)
      else
        checkBehind number
        return .reference number

/-- Reads the group that a condition asks for, by name or by number. -/
def askedGroup : Scan Nat := do
  let name ← takeUntil ')' "group name"
  let back := name.length + 1
  let number ←
    if isName name then
      match (← get).names.lookup name with
      | none => refuse (.unknownName name) back
      | some number => pure number
    else match wholeNumber? name with
      | none => refuse (.badName name) back
      | some whole =>
          if whole < 0 then refuse (.badName name) back
          else
            let number := whole.toNat
            if number = 0 then refuse .zeroNumber back
            else if groupBound ≤ number then refuse (.unknownNumber number) back
            else
              modify fun progress =>
                if (progress.asked.lookup number).isSome then progress
                else { progress with
                  asked := progress.asked ++
                    [(number, progress.position - back)] }
              pure number
  checkBehind number
  return number

/-- What follows an opening bracket: nothing to be matched, a part that is
complete, or the start of a group. -/
inductive Opening where
  | nothing
  | part (tree : Tree)
  | globalFlags
  | look (behind negated : Bool)
  | condition (number : Nat)
  | atomic
  | capture (name? : Option String)
  | scope (added removed : Flags)

/-- Skips a comment up to the bracket that closes it. -/
def skipComment (start : Nat) : Nat → Scan Unit
  | 0 => refuseAt .unterminatedComment start
  | fuel + 1 => do
      match ← take? with
      | none => refuseAt .unterminatedComment start
      | some token =>
        if token = .plain ')' then return () else skipComment start fuel

/-- Reads what follows an opening bracket and a question mark. -/
def extension (start : Nat) : Scan Opening := do
  match ← take? with
  | none => refuse .unexpectedEnd 0
  | some (.plain 'P') =>
      if ← accept '<' then return .capture (some (← groupName '>'))
      else if ← accept '=' then return .part (← namedReference)
      else match ← take? with
        | none => refuse .unexpectedEnd 0
        | some token =>
          refuse (.unknownExtension ("P" ++ token.text)) (token.length + 2)
  | some (.plain ':') => return .scope {} {}
  | some (.plain '#') =>
      skipComment start ((← get).rest.length + 1)
      return .nothing
  | some (.plain '=') => return .look false false
  | some (.plain '!') => return .look false true
  | some (.plain '<') =>
      match ← take? with
      | none => refuse .unexpectedEnd 0
      | some (.plain '=') => return .look true false
      | some (.plain '!') => return .look true true
      | some token =>
        refuse (.unknownExtension ("<" ++ token.text)) (token.length + 2)
  | some (.plain '(') => return .condition (← askedGroup)
  | some (.plain '>') => return .atomic
  | some token =>
      match token with
      | .plain character =>
          if character = '-' || (Flags.ofLetter? character).isSome then
            match ← inlineFlags character with
            | none => return .globalFlags
            | some (added, removed) => return .scope added removed
          else refuse (.unknownExtension token.text) (token.length + 1)
      | .escape _ => refuse (.unknownExtension token.text) (token.length + 1)

/-- Reads what follows an opening bracket. -/
def opening (start : Nat) : Scan Opening := do
  if ← accept '?' then extension start else return .capture none

/-- Takes the bracket that closes the group opened at `start`. -/
def closing (start : Nat) : Scan Unit := do
  if !(← accept ')') then refuseAt .unterminatedGroup start

def skipLine : Nat → Scan Unit
  | 0 => return ()
  | fuel + 1 => do
      match ← take? with
      | none => return ()
      | some token => if token = .plain '\n' then return () else skipLine fuel

mutual

/-- Reads branches up to the end of the pattern or a closing bracket.  `inside`
tells whether a group is around them. -/
def branches : Nat → Bool → Bool → List (List Tree) → Scan (List Tree)
  | 0, _, _, _ => refuse .unexpectedEnd 0
  | fuel + 1, verbose, inside, done => do
      let branch ← sequence fuel verbose (!inside && done.isEmpty) []
      let done := done ++ [branch]
      if ← accept '|' then
        let flags := (← get).flags
        branches fuel (if inside then verbose else flags.verbose) inside done
      else match done with
        | [only] => return only
        | _ => return joinBranches ((← get).position + 1) done

/-- Reads the parts of one branch after the ones already read.  `first` tells
whether global flags may still come. -/
def sequence : Nat → Bool → Bool → List Tree → Scan (List Tree)
  | 0, _, _, _ => refuse .unexpectedEnd 0
  | fuel + 1, verbose, first, done => do
      match ← next? with
      | none | some (.plain '|') | some (.plain ')') => return unwrapGroups done
      | some token =>
          let start := (← get).position
          let _ ← take?
          match token with
          | .escape letter =>
              sequence fuel verbose first (done ++ [← treeEscape letter])
          | .plain character =>
              if verbose && isVerboseBlank character then
                sequence fuel verbose first done
              else if verbose && character = '#' then
                skipLine ((← get).rest.length + 1)
                sequence fuel verbose first done
              else match character with
                | '[' => sequence fuel verbose first (done ++ [← characterSet])
                | '*' | '+' | '?' | '\x7b' =>
                    sequence fuel verbose first (← repetition character done)
                | '.' => sequence fuel verbose first (done ++ [.anyCharacter])
                | '^' =>
                    sequence fuel verbose first (done ++ [.anchor .lineStart])
                | '$' =>
                    sequence fuel verbose first (done ++ [.anchor .lineEnd])
                | '(' =>
                    match ← opening start with
                    | .nothing => sequence fuel verbose first done
                    | .part tree => sequence fuel verbose first (done ++ [tree])
                    | .globalFlags =>
                        let flags := (← get).flags
                        if first && done.isEmpty then
                          sequence fuel flags.verbose first done
                        else refuseAt .lateGlobalFlags start
                    | .look behind negated =>
                        sequence fuel verbose first
                          (done ++ [← lookAround fuel verbose start behind
                            negated])
                    | .condition number =>
                        sequence fuel verbose first
                          (done ++ [← conditional fuel verbose start number])
                    | .atomic =>
                        let body ← nested 2 (branches fuel verbose true [])
                        closing start
                        sequence fuel verbose first
                          (done ++ [.atomic (.ofList body)])
                    | .capture name? =>
                        let number ← openGroup name?
                        let body := Tree.ofList
                          (← nested 2 (branches fuel verbose true []))
                        closing start
                        closeGroup number body
                        sequence fuel verbose first
                          (done ++ [.group (some number) {} {} body])
                    | .scope added removed =>
                        let verbose' := (verbose || added.verbose) &&
                          !removed.verbose
                        let body := Tree.ofList
                          (← nested 2 (branches fuel verbose' true []))
                        closing start
                        sequence fuel verbose first
                          (done ++ [.group none added removed body])
                | _ =>
                    sequence fuel verbose first (done ++ [.code character.toNat])

/-- Reads a group that looks ahead or behind. -/
def lookAround : Nat → Bool → Nat → Bool → Bool → Scan Tree
  | 0, _, _, _, _ => refuse .unexpectedEnd 0
  | fuel + 1, verbose, start, behind, negated => do
      let outer := (← get).groupsBefore?
      if behind && outer.isNone then
        modify fun progress =>
          { progress with groupsBefore? := some progress.nextNumber }
      let body ← nested 2 (branches fuel verbose true [])
      if behind then
        modify fun progress => { progress with groupsBefore? := outer }
      closing start
      return .look behind negated (.ofList body)

/-- Reads the branches of a condition. -/
def conditional : Nat → Bool → Nat → Nat → Scan Tree
  | 0, _, _, _ => refuse .unexpectedEnd 0
  | fuel + 1, verbose, start, number => do
      let present ← nested 1 (sequence fuel verbose false [])
      let absent ←
        if ← accept '|' then
          let absent ← nested 1 (sequence fuel verbose false [])
          if (← next?) = some (.plain '|') then refuse .thirdBranch 0
            else pure absent
        else pure []
      closing start
      return .conditional number (.ofList present) (.ofList absent)

end

def whole : Scan Tree := do
  settle
  let length := (← get).rest.length
  let parts ← branches (4 * length + 8) false false []
  let progress ← get
  if progress.flags.ascii && progress.flags.unicode then
    throw .clashingAlphabets
  else if !progress.rest.isEmpty then refuse .unbalanced 0
  else match progress.asked.find? fun question => progress.nextNumber ≤
    question.1 with
    | some (number, position) => refuseAt (.unknownNumber number) position
    | none => return .ofList parts

end Scan

/-- The greatest distance that a pattern may look behind. -/
def behindLimit : Nat := 4294967295

/-- The word for a kind of repetition. -/
def Greed.operator : Greed → String
  | .greedy => "MAX_REPEAT"
  | .lazy => "MIN_REPEAT"
  | .possessive => "POSSESSIVE_REPEAT"

/-- The first complaint about a tree as a whole: a part that looks behind has
one length, and a templated pattern repeats nothing. -/
def Tree.complaint? (templated : Bool) (widths : Nat → Nat × Nat) :
    Tree → Option Complaint
  | .empty | .code _ | .otherThan _ | .anyCharacter | .set _ _ | .anchor _
  | .reference _ => none
  | .seq left right | .either left right | .conditional _ left right =>
      (left.complaint? templated widths).or (right.complaint? templated widths)
  | .group _ _ _ body | .atomic body => body.complaint? templated widths
  | .look behind _ body =>
      let (low, high) := body.width widths
      if behind && behindLimit < low then some .looksTooFarBehind
      else if behind && low ≠ high then some .variableLookBehind
      else body.complaint? templated widths
  | .repeated greed _ _ body =>
      if templated then some (.templatedRepeat greed.operator)
      else body.complaint? templated widths

end Pattern

/-- A pattern that was read from a text. -/
structure Pattern where
  text : String
  flags : Pattern.Flags
  widths : List (Nat × Nat)
  tree : Pattern.Tree
deriving DecidableEq, Repr

namespace Pattern

/-- Reads a pattern. -/
def parse (text : String) : Except Fault Pattern := do
  let (tree, progress) ← Scan.whole.run { position := 0, rest := text.toList }
  if callLimit < tree.calls then throw .tooDeep
  match tree.complaint? progress.flags.templated progress.widthOf with
  | some complaint => throw (.malformed complaint none)
  | none =>
      return {
        text, tree
        flags := progress.flags
        widths := progress.widths.map fun width? => width?.getD (0, 0) }

end Pattern

end LedgerRules
