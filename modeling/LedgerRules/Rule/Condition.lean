import LedgerRules.Pattern.Matcher
import LedgerRules.Rule.Candidate
import LedgerRules.Text.CaseFold

/-!
# Conditions

A condition holds of a candidate or not; comparing an amount that is no number
may have no answer.  A rule applies when all its conditions hold, or when any of
them does; a rule without conditions always applies.
-/

namespace LedgerRules

/-- A condition on a candidate. -/
inductive Condition where
  | rawTextContains (terms : List String)
  | descriptionContains (terms : List String)
  | descriptionMatches (pattern : Pattern)
  | amountBetween (minimum maximum : Decimal)
  | amountEquals (value : Decimal)
  | sourceIn (sources : List String)
  | typeIs (type : String)
  | fromAccount (accountId : String)
  | toAccount (accountId : String)
  | categoryIs (categoryId : String)
deriving DecidableEq, Repr

/-- How the conditions of a rule are combined. -/
inductive Logic where
  | all
  | any
deriving DecidableEq, Repr, Inhabited

/-- Two amounts that cannot be compared. -/
structure Incomparable where
deriving DecidableEq, Repr

/-- Whether a row of characters occurs in another one. -/
def occursIn (part : List Char) : List Char → Bool
  | [] => part.isEmpty
  | character :: rest =>
      part.isPrefixOf (character :: rest) || occursIn part rest

/-- Whether any of the terms occurs in a text, cases apart. -/
def containsAny (text : String) (terms : List String) : Bool :=
  let folded := foldList text.toList
  terms.any fun term => occursIn (foldList term.toList) folded

/-- Whether the left amount is at most the right one. -/
def Decimal.atMost (left right : Decimal) : Except Incomparable Bool :=
  match left.compare? right with
  | some order => .ok (order ≠ .gt)
  | none => .error {}

/-- Whether two amounts are one number.  A value that is no number equals
nothing, and a signalling one may not be asked. -/
def Decimal.equals (left right : Decimal) : Except Incomparable Bool :=
  if left.isSignalling || right.isSignalling then .error {}
    else .ok (left.sameNumber right)

namespace Condition

def holds (condition : Condition) (candidate : Candidate) :
    Except Incomparable Bool :=
  match condition with
  | rawTextContains terms =>
      .ok (match candidate.rawText with
        | some text => containsAny text terms
        | none => false)
  | descriptionContains terms =>
      .ok (containsAny (candidate.description.getD "") terms)
  | descriptionMatches pattern =>
      .ok (pattern.foundIn (candidate.description.getD ""))
  | amountBetween minimum maximum => do
      if ← minimum.atMost candidate.amount then candidate.amount.atMost maximum
      else return false
  | amountEquals value => candidate.amount.equals value
  | sourceIn sources => .ok (sources.contains candidate.source)
  | typeIs type => .ok (candidate.type = type)
  | fromAccount accountId => .ok (candidate.accountId = some accountId)
  | toAccount accountId => .ok (candidate.transferTo = some accountId)
  | categoryIs categoryId => .ok (candidate.categoryId = some categoryId)

/-- Whether all conditions hold, asked in order up to the first that does
not. -/
def allHold (candidate : Candidate) : List Condition → Except Incomparable Bool
  | [] => .ok true
  | condition :: rest => do
      if ← condition.holds candidate then allHold candidate rest
        else return false

/-- Whether any condition holds, asked in order up to the first that does. -/
def anyHolds (candidate : Candidate) : List Condition → Except Incomparable Bool
  | [] => .ok false
  | condition :: rest => do
      if ← condition.holds candidate then return true
        else anyHolds candidate rest

/-- Whether conditions hold together.  No conditions hold of everything. -/
def hold (logic : Logic) (conditions : List Condition) (candidate : Candidate) :
    Except Incomparable Bool :=
  if conditions.isEmpty then .ok true
  else match logic with
    | .all => allHold candidate conditions
    | .any => anyHolds candidate conditions

end Condition

end LedgerRules
