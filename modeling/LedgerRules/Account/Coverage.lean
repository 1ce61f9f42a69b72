import LedgerRules.Rule.Stored

/-!
# Coverage of accounts

An account is covered when a detection rule sets it, whether that rule is active
or not.  Every other account in use whose bank text can be told from its
institution or last digits gets a draft of a detection rule.
-/

namespace LedgerRules

/-- What is known of an account. -/
structure Account where
  id : String
  name : String
  type : String := "checking"
  institution : Option String := none
  lastFour : Option String := none
  isActive : Bool := true
  isDeleted : Bool := false
deriving DecidableEq, Repr, Inhabited

/-- What coverage reads of a stored rule. -/
structure CoveringRule where
  ruleType : String
  actions : Json
deriving Repr, Inhabited

/-- A rule to be stored. -/
structure RuleDraft where
  name : String
  conditions : Json
  actions : Json
  ruleType : String := RuleKind.accountDetection.text
  logic : String := Logic.all.text
  priority : Int := 0
  isActive : Bool := true
deriving Repr, Inhabited

/-- Stored actions that are no object. -/
structure NotAnObject where
deriving DecidableEq, Repr

namespace Coverage

def setAccount? (actions : Json) : Except NotAnObject (Option Json) :=
  if !actions.isTruthy then .ok none
  else match actions with
    | .obj fields => .ok (Json.lookUp "set_account" fields)
    | _ => .error {}

def coveredBy (rule : CoveringRule) : Except NotAnObject (Option String) := do
  let account? ← setAccount? rule.actions
  return if rule.ruleType = RuleKind.accountDetection.text then
    (account?.filter Json.isTruthy).map Json.asText
  else none

def covered (rules : List CoveringRule) : Except NotAnObject (List String) := do
  return (← rules.mapM coveredBy).reduceOption

/-- The account types that never show up in bank text. -/
def excludedByDefault : List String := ["cash"]

/-- The priority of drafts when nothing else is asked for. -/
def defaultPriority : Int := 100

/-- The words that tell an account from others, without blanks around them and
each once. -/
def keywords (account : Account) : List String :=
  ([account.institution, account.lastFour].filterMap fun word? =>
    nonEmpty? (word?.map trimBlank)).eraseDups

/-- Whether an account may have a detection rule. -/
def isEligible (excluded : List String) (account : Account) : Bool :=
  account.isActive && !account.isDeleted && !excluded.contains account.type

/-- The draft of a rule that sends bank text with the words of an account to
it. -/
def draft (priority : Int) (account : Account) : RuleDraft where
  name := "Account: " ++ account.name
  conditions := .obj [("raw_text_contains", .arr ((keywords account).map .str))]
  actions := .obj [("set_account", .str account.id)]
  priority := priority

/-- The accounts that need a draft, given those already covered, in order and
each once. -/
def uncovered (excluded : List String) :
    List String → List Account → List Account
  | _, [] => []
  | done, account :: rest =>
      if isEligible excluded account && !done.contains account.id &&
          !(keywords account).isEmpty then
        account :: uncovered excluded (account.id :: done) rest
      else uncovered excluded done rest

/-- Drafts detection rules for the accounts that no stored rule covers.  When
`latest?` holds newer rules, the accounts that those cover are left out. -/
def drafts (priority : Int) (excluded : List String) (accounts : List Account)
    (existing : List CoveringRule) (latest? : Option (List CoveringRule)) :
    Except NotAnObject (List RuleDraft) := do
  let needy := uncovered excluded (← covered existing) accounts
  let needy ← match latest? with
    | some latest =>
        if needy.isEmpty then pure needy
        else do
          let done ← covered latest
          pure (needy.filter fun account => !done.contains account.id)
    | none => pure needy
  return needy.map (draft priority)

end Coverage

end LedgerRules
