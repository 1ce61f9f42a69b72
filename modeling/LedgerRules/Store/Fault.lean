import LedgerRules.Resolution.Engine

/-!
# Faults of the store

Why something cannot be done with the store, and the wording of the faults that
have one.
-/

namespace LedgerRules

/-- The payload of a rule that was refused in an update. -/
inductive PayloadPart where
  | conditions
  | actions
deriving DecidableEq, Repr

/-- Why something cannot be done with the store. -/
inductive StoreFault where
  | accountNotFound (id : String)
  | ruleNotFound (id : String)
  | transactionNotFound (id : String)
  | conflict
  | overflow
  | unbindable
  | noAccount
  | badPayload (ruleId ruleName : String) (part : PayloadPart)
      (problems : List Payload.Problem)
  | resolution (fault : ResolutionFault)
  | notAnObject
  | unshownRule (problems : List Payload.Problem)
  | unshownTransaction (problems : List Payload.Problem)
deriving DecidableEq, Repr

namespace PayloadPart

/-- The name of a part. -/
def text : PayloadPart → String
  | conditions => "conditions"
  | actions => "actions"

def model : PayloadPart → String
  | conditions => "RuleConditions"
  | actions => "RuleActions"

/-- The first line of the reason for refusing a part. -/
def reason (part : PayloadPart) (count : Nat) : String :=
  "bad " ++ part.text ++ ": " ++ toString count ++
    (if count = 1 then " validation error" else " validation errors") ++
      " for " ++ part.model

end PayloadPart

/-- The wording of a fault, for those that have one. -/
def StoreFault.message : StoreFault → String
  | .accountNotFound id => "Account " ++ id ++ " not found"
  | .ruleNotFound id => "Automation rule " ++ id ++ " not found"
  | .transactionNotFound id => "Transaction " ++ id ++ " not found"
  | .noAccount => "Resolved transaction has no account"
  | _ => ""

end LedgerRules
