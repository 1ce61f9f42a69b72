import LedgerRules.Json.Access
import LedgerRules.Store.Basic

/-!
# Snapshots

A snapshot is a store as JSON: its accounts, its rules and its transactions.
Rows that are read from a snapshot may leave columns out, which then have the
values that new rows have.
-/

namespace LedgerRules

namespace Json

/-- A field as a decimal. -/
def decimalAt? (name : String) (json : Json) : Option Decimal :=
  (json.textAt? name).bind Decimal.read?

/-- A field as a date. -/
def dateAt? (name : String) (json : Json) : Option Date :=
  (json.textAt? name).bind Date.read?

/-- A field as a timestamp. -/
def timestampAt? (name : String) (json : Json) : Option Timestamp :=
  (json.textAt? name).bind Timestamp.read?

/-- A field as a time of creation. -/
def creationAt? (name : String) (json : Json) : Option Int :=
  (json.timestampAt? name).map Timestamp.wallClock

end Json

namespace Store

def NewAccount.ofJson (json : Json) : NewAccount :=
  { id := json.textAt? "id"
    name := json.textAt? "name"
    type := json.textAt? "type"
    institution := json.textAt? "institution"
    lastFour := json.textAt? "last_four"
    currency := json.textAt "currency" defaultCurrency
    balance := (json.decimalAt? "balance").getD (.ofInt 0)
    isActive := json.flagAt "is_active" true
    isDeleted := json.flagAt "deleted_at" false
    createdAt := json.creationAt? "created_at" }

def NewRule.ofJson (json : Json) : NewRule :=
  { id := json.textAt? "id"
    name := json.textAt? "name"
    isActive := json.flagAt "is_active" true
    priority := (json.intAt? "priority").getD 0
    ruleType := json.textAt "rule_type" RuleKind.general.text
    logic := json.textAt "condition_logic" Logic.all.text
    conditions := (json.field? "conditions").getD (.obj [])
    actions := (json.field? "actions").getD (.obj [])
    promptText := json.textAt? "prompt_text"
    matchPhone := json.textAt? "match_phone"
    transferTo := json.textAt? "transfer_to_account_id"
    detectedAccount := json.textAt? "detected_account_id"
    createdAt := json.creationAt? "created_at" }

def NewTransaction.ofJson (json : Json) : NewTransaction :=
  { id := json.textAt? "id"
    transactionDate := json.dateAt? "transaction_date"
    transactionTime := json.textAt? "transaction_time"
    amount := json.decimalAt? "amount"
    description := json.textAt? "description"
    notes := json.textAt? "notes"
    type := json.textAt "type" "expense"
    source := json.textAt "source" "manual"
    accountId := json.textAt? "account_id"
    categoryId := json.textAt? "category_id"
    rawText := json.textAt? "raw_text"
    transferTo := json.textAt? "transfer_to_account_id"
    transferId := json.textAt? "transfer_id"
    isReconciled := json.flagAt "is_reconciled" false
    reconciledAt := json.flagAt "reconciled_at" false
    appliedRules := json.valueAt "applied_rules"
    duplicateStatus := json.textAt? "duplicate_status"
    isDeleted := json.flagAt "deleted_at" false
    createdAt := json.creationAt? "created_at" }

def insertEach {New Row : Type}
    (insert : New → Store → Except StoreFault (Row × Store)) :
    List New → Store → Except StoreFault Store
  | [], store => .ok store
  | new :: rest, store => do insertEach insert rest (← insert new store).2

def ofJson (today : Date) (json : Json) : Except StoreFault Store := do
  let store ← insertEach insertAccount
    ((json.itemsAt "accounts").map NewAccount.ofJson)
    (empty today)
  let store ←
    insertEach insertRule ((json.itemsAt "rules").map NewRule.ofJson) store
  insertEach insertTransaction
    ((json.itemsAt "transactions").map NewTransaction.ofJson) store

/-- Rows by their times of creation, and by their identifiers on a par. -/
def byCreationAndId {Row : Type} (createdAt : Row → Int) (id : Row → String)
    (rows : List Row) : List Row :=
  byCreation createdAt
    (rows.mergeSort fun left right => decide (id left ≤ id right))

/-- The snapshot of a store, without times of creation: the rows stand in their
order. -/
def toJson (store : Store) : Json :=
  .obj [
    ("accounts", .arr ((byCreationAndId AccountRow.createdAt AccountRow.id
      store.accounts).map AccountRow.toJson)),
    ("rules", .arr ((byCreationAndId RuleRow.createdAt RuleRow.id
      store.rules).map RuleRow.toJson)),
    ("transactions",
      .arr ((byCreationAndId TransactionRow.createdAt TransactionRow.id
      store.transactions).map TransactionRow.toJson))]

end Store

end LedgerRules
