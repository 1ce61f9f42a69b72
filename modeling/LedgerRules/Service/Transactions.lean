import LedgerRules.Payload.TransactionRequest
import LedgerRules.Service.Message
import LedgerRules.Store.Accounts
import LedgerRules.Store.RuleSession
import LedgerRules.Store.Transactions

/-!
# Requests about transactions

A candidate can be previewed, which stores nothing, and booked.  A booking that
carries the rules of an accepted preview is not put through the rules again.  A
likely duplicate is turned down unless it is forced or replaces another
transaction.
-/

namespace LedgerRules

namespace Service

def candidateOf (request : Payload.CandidateRequest) : Candidate where
  description := some request.description
  amount := request.amount
  type := request.type
  source := request.source
  rawText := request.rawText
  accountId := request.accountId
  categoryId := request.categoryId
  transactionDate := request.transactionDate
  transactionTime := request.transactionTime
  notes := request.notes
  transferTo := request.transferTo
  transferId := request.transferId

/-- Resolves a candidate with rules against the accounts of the store. -/
def resolveWith (rules : List StoredRule) (candidate : Candidate)
    (store : Store) :
    Except StoreFault (Resolution × Store) :=
  match Resolution.resolve (some store.existingAccountIds) store.transferIds
    rules candidate with
  | .ok (resolution, transferIds) =>
      .ok (resolution, { store with transferIds })
  | .error fault => .error (.resolution fault)

def activeRules (store : Store) : List StoredRule :=
  (RuleSession.start store).active.map RuleRow.stored

/-- Resolves a candidate with the active rules of the store. -/
def resolveStored (candidate : Candidate) (store : Store) :
    Except StoreFault (Resolution × Store) :=
  resolveWith (activeRules store) candidate store

def previewBody (resolution : Resolution) : Json :=
  .obj [("resolved", .obj [("account_id", .ofText? resolution.accountId),
      ("category_id", .ofText? resolution.categoryId),
      ("type", .str resolution.type),
      ("notes", .ofText? resolution.notes),
      ("is_reconciled", .bool resolution.isReconciled),
      ("transfer_to_account_id", .ofText? resolution.transferTo),
      ("transfer_id", .ofText? resolution.transferId)]),
    ("original", .obj [("account_id", .ofText? resolution.original.accountId),
      ("category_id", .ofText? resolution.original.categoryId)]),
    ("applied_rules", .arr (resolution.appliedRules.map AppliedRule.toJson))]

/-- Answers a request for a preview. -/
def preview (body : Json) (store : Store) : Outcome :=
  match checkBody (Payload.CandidateRequest.check .request) body with
  | .rejected problems => .unchanged store (.invalid problems)
  | .overflowed => .failed store .overflow
  | .accepted request =>
      match resolveStored (candidateOf request) store with
      | .error fault => .failed store fault
      | .ok (resolution, store) =>
          .unchanged store (.answer 200 (shownValue (previewBody resolution)))

/-- How a booking treats duplicates. -/
structure BookingMode where
  force : Bool
  replace : Option String
deriving DecidableEq, Repr

def checkBookingMode (query : List (String × String)) :
    Payload.Checked BookingMode :=
  BookingMode.mk
    <$> queryValue query "force" false Payload.bool
    <*> queryValue query "replace" none (Payload.nullable Payload.text)

/-- Resolves a requested transaction.  One that carries applied rules keeps them
and is only linked. -/
def resolveRequest (request : Payload.TransactionRequest) (store : Store) :
    Except StoreFault (Resolution × Store) :=
  let candidate := candidateOf request.candidate
  match request.appliedRules.getD [] with
  | [] => resolveStored candidate store
  | appliedRules => do
      let (resolution, store) ← resolveWith [] candidate store
      return ({ resolution with
        appliedRules
        isReconciled := request.isReconciled }, store)

/-- What stands in the way of a booking. -/
inductive Refusal where
  | noValidAccount
  | duplicate (row : TransactionRow)
  | fault (fault : StoreFault)
deriving Repr

/-- Whether a resolution is on an account that exists. -/
def hasAccount (resolution : Resolution) (store : Store) : Bool :=
  resolution.accountId.any store.existingAccountIds.contains

/-- The stored transaction that a booking seems to repeat, when its mode asks
for it to be looked for. -/
def conflicting (mode : BookingMode) (resolution : Resolution) (store : Store) :
    Except StoreFault (Option TransactionRow) :=
  if mode.force || (nonEmpty? mode.replace).isSome then .ok none
  else do return (← store.findDuplicate resolution).map (·.1)

def replaced (mode : BookingMode) (store : Store) : Except StoreFault Store :=
  match nonEmpty? mode.replace with
  | some id => store.deleteTransaction id
  | none => .ok store

def booked (mode : BookingMode) (request : Payload.TransactionRequest)
    (store : Store) :
    Except Refusal (TransactionRow × Store) := do
  let orFault := fun {Value : Type} (outcome : Except StoreFault Value) =>
    outcome.mapError Refusal.fault
  let (resolution, store) ← orFault (resolveRequest request store)
  if !hasAccount resolution store then throw .noValidAccount
  match ← orFault (conflicting mode resolution store) with
  | some row => throw (.duplicate row)
  | none =>
      let store ← orFault (replaced mode store)
      orFault (store.book resolution (if mode.force then
        some "confirmed" else none))

/-- The body of the answer to a likely duplicate. -/
def duplicateBody (row : TransactionRow) : Except StoreFault Json := do
  return .obj [("duplicate", .bool true), ("match", ← showTransaction row)]

/-- Answers a request for a booking. -/
def createTransaction (query : List (String × String)) (body : Json)
    (store : Store) : Outcome :=
  let checked := Prod.mk <$> checkBookingMode query
    <*> checkBody (Payload.TransactionRequest.check .request store.clock.today)
      body
  match checked with
  | .rejected problems => .unchanged store (.invalid problems)
  | .overflowed => .failed store .overflow
  | .accepted (mode, request) =>
      match booked mode request store with
      | .error .noValidAccount =>
          .unchanged store
            (.detail 400
            "Transaction has no valid account after applying rules")
      | .error (.duplicate row) =>
          ⟨store, do return .answer 409 (← duplicateBody row)⟩
      | .error (.fault (.transactionNotFound id)) =>
          .unchanged store
            (.detail 404 (StoreFault.message (.transactionNotFound id)))
      | .error (.fault fault) => .failed store fault
      | .ok (row, store) =>
          ⟨store, do return .answer 201 (← showTransaction row)⟩

end Service

end LedgerRules
