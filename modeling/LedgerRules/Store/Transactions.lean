import LedgerRules.Store.Basic

/-!
# Transactions in the store

Booking a resolution inserts its transaction and, for a transfer, the other half
on the destination account.  A transaction that comes linked gets its other half
only while no live half stands on the destination.  Deleting marks a transaction
and all other live rows of its transfer.
-/

namespace LedgerRules

namespace Store

/-- The live transaction with an identifier. -/
def transaction (id : String) (store : Store) :
    Except StoreFault TransactionRow :=
  match store.transactions.find? (·.id = id) with
  | some row =>
      if row.isDeleted then .error (.transactionNotFound id) else .ok row
  | none => .error (.transactionNotFound id)

def liveTransactions (store : Store) : List TransactionRow :=
  store.transactions.filter fun row => !row.isDeleted

/-- Whether a live half of a transfer stands on an account. -/
def hasTransferHalf (transferId accountId : String) (store : Store) : Bool :=
  store.liveTransactions.any fun row =>
    row.transferId = some transferId && row.accountId = accountId

/-- The live halves of a transfer, the older ones first. -/
def transferHalves (transferId : String) (store : Store) :
    List TransactionRow :=
  byCreation TransactionRow.createdAt
    (store.liveTransactions.filter fun row => row.transferId = some transferId)

/-- The first live transaction with a raw text from a source. -/
def findByRawText (rawText source : String) (store : Store) :
    Option TransactionRow :=
  store.liveTransactions.find? fun row => row.rawText = some rawText &&
    row.source = source

/-- The first live transaction with a date, an amount and an account.  A value
that is no number equals no stored amount. -/
def findByKey (date : Date) (amount : Decimal) (accountId : String)
    (store : Store) :
    Except StoreFault (Option TransactionRow) :=
  if amount.isSignalling then .error .unbindable
  else .ok (store.liveTransactions.find? fun row =>
    row.transactionDate = date && row.amount.sameNumber amount.toDouble &&
      row.accountId = accountId)

def otherHalf (request : TransferRequest) (fallbackDate : Date) :
    NewTransaction where
  transactionDate := some (request.transactionDate.getD fallbackDate)
  transactionTime := request.transactionTime
  amount := some request.amount
  description := request.description
  type := request.type
  source := Resolution.transferType
  accountId := some request.destination
  transferTo := request.source
  transferId := some request.transferId

/-- The columns of the transaction of a resolution on an account. -/
def primary (resolution : Resolution) (accountId : String) (date : Date)
    (duplicateStatus : Option String) : NewTransaction where
  transactionDate := some date
  transactionTime := resolution.transactionTime
  amount := some resolution.amount
  description := resolution.description
  notes := resolution.notes
  type := resolution.type
  source := resolution.source
  accountId := some accountId
  categoryId := resolution.categoryId
  rawText := resolution.rawText
  transferTo := resolution.transferTo
  transferId := resolution.transferId
  isReconciled := resolution.isReconciled
  reconciledAt := resolution.isReconciled
  appliedRules :=
    if resolution.appliedRules.isEmpty then .null
    else .arr (resolution.appliedRules.map AppliedRule.toJson)
  duplicateStatus := duplicateStatus

/-- The other half that a resolution asks for: the one it was linked with, or,
for one that came linked, one that is not stored yet. -/
def wantedHalf (resolution : Resolution) (store : Store) :
    Option TransferRequest :=
  match resolution.transferRequest with
  | some request => some request
  | none =>
      match nonEmpty? resolution.transferId,
          nonEmpty? resolution.transferTo with
      | some transferId, some destination =>
          if store.hasTransferHalf transferId destination then none
          else some (resolution.otherHalf transferId destination)
      | _, _ => none

/-- Books a resolution.  The answer is the transaction itself, without the other
half of a transfer. -/
def book (resolution : Resolution) (duplicateStatus : Option String)
    (store : Store) :
    Except StoreFault (TransactionRow × Store) := do
  let some accountId := resolution.accountId | throw .noAccount
  let date := resolution.transactionDate.getD store.clock.today
  let half? := store.wantedHalf resolution
  let (row, store) ← store.insertTransaction
    (primary resolution accountId date duplicateStatus)
  match half? with
  | none => return (row, store)
  | some request =>
      let (_, store) ← store.insertTransaction (otherHalf request date)
      return (row, store)

/-- Marks a live transaction as deleted, together with the other live rows of
its transfer. -/
def deleteTransaction (id : String) (store : Store) :
    Except StoreFault Store := do
  let row ← store.transaction id
  return { store with
    transactions := store.transactions.map fun other =>
      if other.id =
        id || (row.transferId.isSome && other.transferId = row.transferId) then
        { other with isDeleted := true }
      else other }

/-- By what a stored transaction was recognised as a duplicate. -/
inductive DuplicateReason where
  | rawText
  | key
deriving DecidableEq, Repr

/-- The name of a reason. -/
def DuplicateReason.text : DuplicateReason → String
  | rawText => "raw_text"
  | key => "date_amount_account"

/-- The stored transaction that a resolution seems to repeat.  Raw text from the
same source is looked for first, then date, amount and account. -/
def findDuplicate (resolution : Resolution) (store : Store) :
    Except StoreFault (Option (TransactionRow × DuplicateReason)) := do
  let byText := match nonEmpty? resolution.rawText,
    nonEmpty? (some resolution.source) with
    | some rawText, some source => store.findByRawText rawText source
    | _, _ => none
  match byText with
  | some row => return some (row, .rawText)
  | none =>
      match resolution.duplicateKey with
      | (some date, amount, some accountId) =>
          return (← store.findByKey date amount accountId).map fun row =>
            (row, .key)
      | _ => return none

end Store

end LedgerRules
