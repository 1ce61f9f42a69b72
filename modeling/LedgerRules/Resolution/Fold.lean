import LedgerRules.Resolution.Basic

/-!
# Folding rules into a resolution

The rules that match the candidate act on it in order.  Type, category, account
and destination of a transfer belong to the first rule that writes them; notes
add up, and one rule is enough to reconcile.  A link to an account that is not
known is reported and leaves the destination open for a later rule.  Every rule
sees the candidate as it was at the start.
-/

namespace LedgerRules

/-- The fields that rules write, and which of them are taken. -/
structure Settling where
  type : String
  accountId : Option String
  categoryId : Option String
  transferTo : Option String
  notes : List String
  isReconciled : Bool := false
  issues : List Issue := []
  typeTaken : Bool := false
  accountTaken : Bool := false
  categoryTaken : Bool := false
  transferTaken : Bool := false
deriving DecidableEq, Repr, Inhabited

namespace Settling

/-- The fields of a candidate, none of them taken. -/
def ofCandidate (candidate : Candidate) : Settling where
  type := candidate.type
  accountId := candidate.accountId
  categoryId := candidate.categoryId
  transferTo := candidate.transferTo
  notes := (nonEmpty? candidate.notes).toList

/-- The issue of a link to an account that is not known. -/
def unknownDestination (rule : Rule) (accountId : String) : Issue :=
  ⟨some rule.id, rule.name, "transfer destination " ++ accountId ++
    " not found"⟩

/-- Lets an action of a rule act.  The answer tells whether it contributed. -/
def act (known : KnownAccounts) (rule : Rule) (settling : Settling) :
    Action → Settling × Bool
  | .setType type =>
      if settling.typeTaken then (settling, false)
      else ({ settling with type, typeTaken := true }, true)
  | .setCategory categoryId =>
      if settling.categoryTaken then (settling, false)
      else
        ({ settling with
          categoryId := some categoryId
          categoryTaken := true }, true)
  | .setAccount accountId =>
      if settling.accountTaken then (settling, false)
      else ({ settling with accountId := some accountId, accountTaken := true },
        true)
  | .linkTo accountId =>
      if settling.transferTaken then (settling, false)
      else if known.allow accountId then
        ({ settling with transferTo := some accountId, transferTaken := true },
          true)
      else
        ({ settling with issues := settling.issues ++
          [unknownDestination rule accountId] }, false)
  | .reconcile => ({ settling with isReconciled := true }, true)
  | .addNote note => ({ settling with notes := settling.notes ++ [note] }, true)

/-- Lets the actions of a rule act in order, and lists those that
contributed. -/
def actAll (known : KnownAccounts) (rule : Rule) :
    Settling → List Action → Settling × List Action
  | settling, [] => (settling, [])
  | settling, action :: rest =>
      let (settling, contributed) := settling.act known rule action
      let (settling, credited) := actAll known rule settling rest
      (settling, if contributed then action :: credited else credited)

def credit (rule : Rule) (credited : List Action) : List AppliedRule :=
  if credited.isEmpty then []
  else [⟨rule.id, rule.name, credited.map fun action =>
    (action.key, action.credit)⟩]

/-- Lets the rules that match a candidate act in order, and lists the credited
ones. -/
def run (known : KnownAccounts) (candidate : Candidate) :
    Settling → List Rule → Except Incomparable (Settling × List AppliedRule)
  | settling, [] => .ok (settling, [])
  | settling, rule :: rest => do
      if ← Condition.hold rule.logic rule.conditions candidate then
        let (settling, credited) := settling.actAll known rule rule.actions
        let (settling, applied) ← run known candidate settling rest
        return (settling, credit rule credited ++ applied)
      else run known candidate settling rest

end Settling

namespace Resolution

/-- What stands between notes. -/
def noteSeparator : String := "\n"

/-- Folds the actions of ordered rules into a candidate. -/
def ofRules (known : KnownAccounts) (rules : List Rule)
    (candidate : Candidate) :
    Except Incomparable Resolution := do
  let (settling, applied) ← (Settling.ofCandidate candidate).run known candidate
    rules
  return {
    description := candidate.description
    amount := candidate.amount
    type := settling.type
    source := candidate.source
    original := ⟨candidate.accountId, candidate.categoryId⟩
    rawText := candidate.rawText
    accountId := settling.accountId
    categoryId := settling.categoryId
    transactionDate := candidate.transactionDate
    transactionTime := candidate.transactionTime
    notes :=
      if settling.notes.isEmpty then none
      else some (String.intercalate noteSeparator settling.notes)
    isReconciled := settling.isReconciled
    transferTo := settling.transferTo
    transferId := candidate.transferId
    appliedRules := applied
    issues := settling.issues }

end Resolution

end LedgerRules
