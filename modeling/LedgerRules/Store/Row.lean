import LedgerRules.Account.Coverage
import LedgerRules.Resolution.Basic

/-!
# Rows

The rows of the three tables.  Amounts are stored as doubles and read back with
four places; times of creation are microseconds of local time.
-/

namespace LedgerRules

/-- The number of places with which stored amounts are read back. -/
def storedPlaces : Nat := 4

def readBack (amount : Double) : Decimal :=
  Decimal.ofDoubleFixed storedPlaces amount

/-- A row of the table of accounts. -/
structure AccountRow where
  id : String
  name : String
  type : String
  institution : Option String
  lastFour : Option String
  currency : String
  balance : Double
  isActive : Bool
  isDeleted : Bool
  createdAt : Int
deriving DecidableEq, Repr, Inhabited

namespace AccountRow

/-- What is known of the account. -/
def account (row : AccountRow) : Account where
  id := row.id
  name := row.name
  type := row.type
  institution := row.institution
  lastFour := row.lastFour
  isActive := row.isActive
  isDeleted := row.isDeleted

def toJson (row : AccountRow) : Json :=
  .obj [("id", .str row.id), ("name", .str row.name), ("type", .str row.type),
    ("institution", .ofText? row.institution),
    ("last_four", .ofText? row.lastFour),
    ("currency", .str row.currency),
    ("balance", .str (readBack row.balance).text),
    ("is_active", .bool row.isActive), ("deleted_at", .bool row.isDeleted)]

end AccountRow

/-- A row of the table of rules. -/
structure RuleRow where
  id : String
  name : String
  isActive : Bool
  priority : Int
  ruleType : String
  logic : String
  conditions : Json
  actions : Json
  promptText : Option String
  matchPhone : Option String
  transferTo : Option String
  detectedAccount : Option String
  createdAt : Int
deriving Repr, Inhabited

namespace RuleRow

def stored (row : RuleRow) : StoredRule where
  id := row.id
  name := row.name
  priority := row.priority
  isActive := row.isActive
  ruleType := row.ruleType
  logic := row.logic
  conditions := row.conditions
  actions := row.actions
  transferTo := row.transferTo
  createdAt := some ⟨row.createdAt, none⟩

def covering (row : RuleRow) : CoveringRule :=
  ⟨row.ruleType, row.actions⟩

/-- The fields of the row that answers to requests show. -/
def shownFields (row : RuleRow) : List (String × Json) :=
  [("id", .str row.id), ("name", .str row.name),
    ("is_active", .bool row.isActive), ("priority", .int row.priority),
    ("rule_type", .str row.ruleType),
    ("condition_logic", .str row.logic), ("conditions", row.conditions),
    ("actions", row.actions), ("prompt_text", .ofText? row.promptText),
    ("match_phone", .ofText? row.matchPhone),
    ("transfer_to_account_id", .ofText? row.transferTo)]

def toJson (row : RuleRow) : Json :=
  .obj (row.shownFields ++
    [("detected_account_id", .ofText? row.detectedAccount)])

end RuleRow

/-- A row of the table of transactions. -/
structure TransactionRow where
  id : String
  transactionDate : Date
  transactionTime : Option String
  amount : Double
  description : String
  notes : Option String
  type : String
  source : String
  accountId : String
  categoryId : Option String
  rawText : Option String
  transferTo : Option String
  transferId : Option String
  isReconciled : Bool
  reconciledAt : Bool
  appliedRules : Json
  duplicateStatus : Option String
  isDeleted : Bool
  createdAt : Int
deriving Repr, Inhabited

namespace TransactionRow

/-- The fields of the row that answers to requests show. -/
def shownFields (row : TransactionRow) : List (String × Json) :=
  [("id", .str row.id), ("transaction_date", .str row.transactionDate.text),
    ("transaction_time", .ofText? row.transactionTime),
    ("amount", .str (readBack row.amount).text),
    ("description", .str row.description),
    ("notes", .ofText? row.notes), ("type", .str row.type),
    ("source", .str row.source),
    ("account_id", .str row.accountId),
    ("category_id", .ofText? row.categoryId),
    ("raw_text", .ofText? row.rawText),
    ("transfer_to_account_id", .ofText? row.transferTo),
    ("transfer_id", .ofText? row.transferId),
    ("is_reconciled", .bool row.isReconciled),
    ("applied_rules", row.appliedRules),
    ("duplicate_status", .ofText? row.duplicateStatus)]

def toJson (row : TransactionRow) : Json :=
  .obj (row.shownFields ++
    [("reconciled_at", .bool row.reconciledAt),
      ("deleted_at", .bool row.isDeleted)])

end TransactionRow

/-- A value inside a short description. -/
def mentioned (value? : Option String) : String :=
  value?.getD "None"

def describeAccount (id? name? type? : Option String) : String :=
  "<Account(id=" ++ mentioned id? ++ ", name='" ++ mentioned name? ++
    "', type='" ++
    mentioned type? ++ "')>"

def describeRule (id? name? ruleType? priority? : Option String) : String :=
  "<AutomationRule(id=" ++ mentioned id? ++ ", name='" ++ mentioned name? ++
    "', type='" ++
    mentioned ruleType? ++ "', priority=" ++ mentioned priority? ++ ")>"

def describeTransaction (id? date? amount? : Option String) : String :=
  "<Transaction(id=" ++ mentioned id? ++ ", date=" ++ mentioned date? ++
    ", amount=" ++
    mentioned amount? ++ ")>"

end LedgerRules
