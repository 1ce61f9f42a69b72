import LedgerRules.Calendar.Date

/-!
# Candidates

A candidate is a transaction before any rule has touched it.
-/

namespace LedgerRules

/-- A transaction that no rule has touched yet. -/
structure Candidate where
  description : Option String
  amount : Decimal
  type : String := "expense"
  source : String := "manual"
  rawText : Option String := none
  accountId : Option String := none
  categoryId : Option String := none
  transactionDate : Option Date := none
  transactionTime : Option String := none
  notes : Option String := none
  transferTo : Option String := none
  transferId : Option String := none
deriving DecidableEq, Repr, Inhabited

/-- A text that is there and not empty. -/
def nonEmpty? : Option String → Option String
  | some "" => none
  | value? => value?

end LedgerRules
