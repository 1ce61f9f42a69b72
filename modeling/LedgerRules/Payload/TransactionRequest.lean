import LedgerRules.Payload.RuleRequest
import LedgerRules.Rule.Applied

/-!
# Requests for transactions

A candidate is a transaction as it was entered or extracted.  A request to book
one may carry the outcome of an earlier preview: the rules that were applied and
whether the transaction is reconciled.
-/

namespace LedgerRules

namespace Payload

/-- A transaction to be previewed. -/
structure CandidateRequest where
  description : String
  amount : Decimal
  type : String := "expense"
  source : String := "manual"
  rawText : Option String := none
  accountId : Option String := none
  categoryId : Option String := none
  transactionDate : Option Date := none
  transactionTime : Option String := none
  notes : Option String := none
  transferTo : Option String := none
  transferId : Option String := none
deriving DecidableEq, Repr

namespace CandidateRequest

/-- The greatest length of a description. -/
def longestDescription : Nat := 500

def checkFields (fields : Fields) : Checked CandidateRequest :=
  CandidateRequest.mk
    <$> required fields "description" (boundedText 1 longestDescription)
    <*> required fields "amount" decimal
    <*> defaulted fields "type" "expense" (oneOf transactionTypes)
    <*> defaulted fields "source" "manual" text
    <*> optional fields "raw_text" text
    <*> optional fields "account_id" text
    <*> optional fields "category_id" text
    <*> optional fields "transaction_date" date
    <*> optional fields "transaction_time" text
    <*> optional fields "notes" text
    <*> optional fields "transfer_to_account_id" text
    <*> optional fields "transfer_id" text

def check (origin : Origin) : Check CandidateRequest :=
  model origin "TransactionCandidateRequest" checkFields

/-- The candidate with every field written out, absent ones as `null`. -/
def dump (request : CandidateRequest) : Fields :=
  [("description", .str request.description),
    ("amount", .str request.amount.text),
    ("type", .str request.type),
    ("source", .str request.source),
    ("raw_text", .ofText? request.rawText),
    ("account_id", .ofText? request.accountId),
    ("category_id", .ofText? request.categoryId),
    ("transaction_date", .ofText? (request.transactionDate.map Date.text)),
    ("transaction_time", .ofText? request.transactionTime),
    ("notes", .ofText? request.notes),
    ("transfer_to_account_id", .ofText? request.transferTo),
    ("transfer_id", .ofText? request.transferId)]

end CandidateRequest

/-- Checks a rule that an earlier preview credited with some actions. -/
def appliedRule (origin : Origin) : Check AppliedRule :=
  model origin "AppliedRuleResponse" fun fields =>
    AppliedRule.mk
      <$> required fields "rule_id" text
      <*> required fields "rule_name" text
      <*> required fields "actions" anyObject

/-- A transaction to be booked. -/
structure TransactionRequest where
  candidate : CandidateRequest
  appliedRules : Option (List AppliedRule) := none
  isReconciled : Bool := false
deriving Repr

namespace TransactionRequest

/-- Fills the date of a candidate that has none. -/
def dated (today : Date) (candidate : CandidateRequest) : CandidateRequest :=
  { candidate with
    transactionDate := some (candidate.transactionDate.getD today) }

/-- Checks a request; a date that is missing is today's. -/
def check (origin : Origin) (today : Date) : Check TransactionRequest :=
  model origin "TransactionCreate" fun fields =>
    TransactionRequest.mk
      <$> (dated today <$> CandidateRequest.checkFields fields)
      <*> optional fields "applied_rules" (list (appliedRule origin))
      <*> defaulted fields "is_reconciled" false bool

/-- The request with every field written out, absent ones as `null`. -/
def dump (request : TransactionRequest) : Fields :=
  request.candidate.dump ++
    [("applied_rules",
        (request.appliedRules.map fun rules =>
          Json.arr (rules.map AppliedRule.toJson)).getD .null),
      ("is_reconciled", .bool request.isReconciled)]

end TransactionRequest

end Payload

end LedgerRules
