import LedgerRules.Rule.Applied
import LedgerRules.Rule.Selection

/-!
# Resolutions

A resolution is a candidate after the rules: the settled fields, the rules
credited for them, what was left out, and the other half of a transfer when one
is to be booked.
-/

namespace LedgerRules

/-- The half of a transfer that is to be booked on the destination account. -/
structure TransferRequest where
  transferId : String
  source : Option String
  destination : String
  amount : Decimal
  description : Option String
  transactionDate : Option Date := none
  transactionTime : Option String := none
  type : String := "transfer"
deriving DecidableEq, Repr

/-- Account and category before any rule. -/
structure OriginalValues where
  accountId : Option String
  categoryId : Option String
deriving DecidableEq, Repr, Inhabited

/-- A candidate after the rules. -/
structure Resolution where
  description : Option String
  amount : Decimal
  type : String
  source : String
  original : OriginalValues
  rawText : Option String := none
  accountId : Option String := none
  categoryId : Option String := none
  transactionDate : Option Date := none
  transactionTime : Option String := none
  notes : Option String := none
  isReconciled : Bool := false
  transferTo : Option String := none
  transferId : Option String := none
  transferRequest : Option TransferRequest := none
  appliedRules : List AppliedRule := []
  issues : List Issue := []
deriving Repr, Inhabited

namespace Resolution

/-- The fields of the resolution as a candidate for another round. -/
def candidate (resolution : Resolution) : Candidate where
  description := resolution.description
  amount := resolution.amount
  type := resolution.type
  source := resolution.source
  rawText := resolution.rawText
  accountId := resolution.accountId
  categoryId := resolution.categoryId
  transactionDate := resolution.transactionDate
  transactionTime := resolution.transactionTime
  notes := resolution.notes
  transferTo := resolution.transferTo
  transferId := resolution.transferId

/-- What a stored transaction must share to be taken for the same one. -/
def duplicateKey (resolution : Resolution) :
    Option Date × Decimal × Option String :=
  (resolution.transactionDate, resolution.amount, resolution.accountId)

end Resolution

/-- The accounts that may receive a transfer, or nothing when any may. -/
abbrev KnownAccounts := Option (List String)

/-- Whether an account may receive a transfer. -/
def KnownAccounts.allow (known : KnownAccounts) (accountId : String) : Bool :=
  match known with
  | some accounts => accounts.contains accountId
  | none => true

end LedgerRules
