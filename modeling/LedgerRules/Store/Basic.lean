import LedgerRules.Store.Fault
import LedgerRules.Store.Row

/-!
# The store

The store holds the tables of accounts, rules and transactions, each in the
order in which its rows were inserted, the sources of new identifiers, and a
clock that moves on by a second with every inserted row.  Inserting checks what
the tables promise: identifiers are unique, required columns are filled, and no
two rules of one type detect the same account.
-/

namespace LedgerRules

/-- The clock that gives rows their times of creation. -/
structure Clock where
  today : Date
  inserted : Nat := 0
deriving DecidableEq, Repr, Inhabited

namespace Clock

/-- The time of creation of the next row. -/
def next (clock : Clock) : Int :=
  (Timestamp.ofDateAndSeconds clock.today (clock.inserted + 1)).wallClock

/-- The clock after one more row. -/
def tick (clock : Clock) : Clock :=
  { clock with inserted := clock.inserted + 1 }

end Clock

/-- The tables, the sources of identifiers, and the clock. -/
structure Store where
  accounts : List AccountRow := []
  rules : List RuleRow := []
  transactions : List TransactionRow := []
  accountIds : IdCounter := ⟨"account", 0⟩
  ruleIds : IdCounter := ⟨"rule", 0⟩
  transactionIds : IdCounter := ⟨"txn", 0⟩
  transferIds : IdSource := .transfers
  clock : Clock
deriving Inhabited

namespace Store

/-- A store without rows. -/
def empty (today : Date) : Store :=
  { clock := { today } }

/-- The store with the identifiers and the clock of another one. -/
def withCountersOf (store other : Store) : Store :=
  { store with
    accountIds := other.accountIds
    ruleIds := other.ruleIds
    transactionIds := other.transactionIds
    transferIds := other.transferIds
    clock := other.clock }

def required {Value : Type} : Option Value → Except StoreFault Value
  | some value => .ok value
  | none => .error .conflict

/-- The identifier of a new row: the one asked for, or a new one. -/
def identify (id? : Option String) (counter : IdCounter) : String × IdCounter :=
  match id? with
  | some id => (id, counter)
  | none => counter.next

/-- The double that stores an amount.  A value that is no number is stored as
nothing, which a required column refuses. -/
def storedAmount (amount : Decimal) : Except StoreFault Double :=
  if amount.isSignalling then .error .unbindable
  else if amount.isNaN then .error .conflict
  else .ok amount.toDouble.unsignedZero

/-- A whole number that fits a column. -/
def storedInt (number : Int) : Except StoreFault Int :=
  if Date.fitsInteger number then .ok number else .error .overflow

def byCreation {Row : Type} (createdAt : Row → Int) (rows : List Row) :
    List Row :=
  rows.mergeSort fun left right => decide (createdAt left ≤ createdAt right)

/-- The currency of accounts for which none is given. -/
def defaultCurrency : String := "COP"

/-- The columns of a new account. -/
structure NewAccount where
  id : Option String := none
  name : Option String
  type : Option String
  institution : Option String := none
  lastFour : Option String := none
  currency : String := defaultCurrency
  balance : Decimal := .ofInt 0
  isActive : Bool := true
  isDeleted : Bool := false
  createdAt : Option Int := none
deriving Repr

def insertAccount (new : NewAccount) (store : Store) :
    Except StoreFault (AccountRow × Store) := do
  let balance ← storedAmount new.balance
  let name ← required new.name
  let type ← required new.type
  let (id, accountIds) := identify new.id store.accountIds
  if store.accounts.any (·.id = id) then throw .conflict
  let row : AccountRow := {
    id, name, type, balance
    institution := new.institution
    lastFour := new.lastFour
    currency := new.currency
    isActive := new.isActive
    isDeleted := new.isDeleted
    createdAt := new.createdAt.getD store.clock.next }
  return (row, { store with
    accounts := store.accounts ++ [row]
    accountIds
    clock := store.clock.tick })

/-- The columns of a new rule, and whether they can be bound. -/
structure NewRule where
  id : Option String := none
  name : Option String
  isActive : Bool := true
  priority : Int := 0
  ruleType : String := RuleKind.general.text
  logic : String := Logic.all.text
  conditions : Json := .obj []
  actions : Json := .obj []
  promptText : Option String := none
  matchPhone : Option String := none
  transferTo : Option String := none
  detectedAccount : Option String := none
  bound : Except StoreFault Unit := .ok ()
  createdAt : Option Int := none
deriving Repr

/-- Whether two rules may not stand in the table together. -/
def clash (left right : RuleRow) : Bool :=
  left.detectedAccount.isSome && left.detectedAccount = right.detectedAccount &&
    left.ruleType = right.ruleType

def insertRule (new : NewRule) (store : Store) :
    Except StoreFault (RuleRow × Store) := do
  let priority ← storedInt new.priority
  new.bound
  let name ← required new.name
  let (id, ruleIds) := identify new.id store.ruleIds
  let row : RuleRow := {
    id, name, priority
    isActive := new.isActive
    ruleType := new.ruleType
    logic := new.logic
    conditions := new.conditions
    actions := new.actions
    promptText := new.promptText
    matchPhone := new.matchPhone
    transferTo := new.transferTo
    detectedAccount := new.detectedAccount
    createdAt := new.createdAt.getD store.clock.next }
  if store.rules.any (fun other => other.id = id || clash other row) then
    throw .conflict
  return (row, { store with
    rules := store.rules ++ [row]
    ruleIds
    clock := store.clock.tick })

def insertRules : List NewRule → Store →
    Except StoreFault (List RuleRow × Store)
  | [], store => .ok ([], store)
  | new :: rest, store => do
      let (row, store) ← insertRule new store
      let (rows, store) ← insertRules rest store
      return (row :: rows, store)

/-- Writes a rule over the row with its identifier. -/
def updateRule (row : RuleRow) (store : Store) : Except StoreFault Store := do
  let _ ← storedInt row.priority
  if store.rules.any (fun other => other.id ≠ row.id && clash other row) then
    throw .conflict
  return { store with
    rules := store.rules.map fun other => if other.id = row.id then row
      else other }

def removeRule (id : String) (store : Store) : Store :=
  { store with rules := store.rules.filter fun row => row.id ≠ id }

/-- The columns of a new transaction. -/
structure NewTransaction where
  id : Option String := none
  transactionDate : Option Date
  transactionTime : Option String := none
  amount : Option Decimal
  description : Option String
  notes : Option String := none
  type : String := "expense"
  source : String := "manual"
  accountId : Option String
  categoryId : Option String := none
  rawText : Option String := none
  transferTo : Option String := none
  transferId : Option String := none
  isReconciled : Bool := false
  reconciledAt : Bool := false
  appliedRules : Json := .null
  duplicateStatus : Option String := none
  isDeleted : Bool := false
  createdAt : Option Int := none
deriving Repr

def insertTransaction (new : NewTransaction) (store : Store) :
    Except StoreFault (TransactionRow × Store) := do
  let amount ← storedAmount (← required new.amount)
  let transactionDate ← required new.transactionDate
  let description ← required new.description
  let accountId ← required new.accountId
  let (id, transactionIds) := identify new.id store.transactionIds
  if store.transactions.any (·.id = id) then throw .conflict
  let row : TransactionRow := {
    id, transactionDate, amount, description, accountId
    transactionTime := new.transactionTime
    notes := new.notes
    type := new.type
    source := new.source
    categoryId := new.categoryId
    rawText := new.rawText
    transferTo := new.transferTo
    transferId := new.transferId
    isReconciled := new.isReconciled
    reconciledAt := new.reconciledAt
    appliedRules := new.appliedRules
    duplicateStatus := new.duplicateStatus
    isDeleted := new.isDeleted
    createdAt := new.createdAt.getD store.clock.next }
  return (row, { store with
    transactions := store.transactions ++ [row]
    transactionIds
    clock := store.clock.tick })

end Store

end LedgerRules
