import LedgerRules.Payload.Actions

/-!
# Requests for rules

A request for a new rule names it and may leave everything else to defaults.
-/

namespace LedgerRules

namespace Payload

/-- A rule to be created. -/
structure RuleRequest where
  name : String
  isActive : Bool := true
  priority : Int := 0
  ruleType : String := "general"
  logic : String := "and"
  conditions : Conditions := {}
  actions : Actions := {}
  promptText : Option String := none
  matchPhone : Option String := none
  transferTo : Option String := none
deriving DecidableEq, Repr

def ruleTypes : List String := ["general", "account_detection", "transfer"]

/-- The ways to combine conditions. -/
def logics : List String := ["and", "or"]

namespace RuleRequest

/-- The greatest length of a name. -/
def longestName : Nat := 200

def checkFields (origin : Origin) (fields : Fields) : Checked RuleRequest :=
  RuleRequest.mk
    <$> required fields "name" (boundedText 1 longestName)
    <*> defaulted fields "is_active" true bool
    <*> defaulted fields "priority" 0 int
    <*> defaulted fields "rule_type" "general" (oneOf ruleTypes)
    <*> defaulted fields "condition_logic" "and" (oneOf logics)
    <*> defaulted fields "conditions" {} (Conditions.check origin)
    <*> defaulted fields "actions" {} (Actions.check origin)
    <*> optional fields "prompt_text" text
    <*> optional fields "match_phone" text
    <*> optional fields "transfer_to_account_id" text

def check (origin : Origin) : Check RuleRequest :=
  model origin "AutomationRuleCreate" (checkFields origin)

/-- The request with every field written out.  Without nulls, absent fields are
left out at every level. -/
def dump (nulls : Bool) (request : RuleRequest) : Fields :=
  let tidy := if nulls then id else withoutNulls
  tidy
    [("name", .str request.name),
      ("is_active", .bool request.isActive),
      ("priority", .int request.priority),
      ("rule_type", .str request.ruleType),
      ("condition_logic", .str request.logic),
      ("conditions", .obj (tidy request.conditions.dump)),
      ("actions", .obj (tidy request.actions.dump)),
      ("prompt_text", .ofText? request.promptText),
      ("match_phone", .ofText? request.matchPhone),
      ("transfer_to_account_id", .ofText? request.transferTo)]

end RuleRequest

end Payload

end LedgerRules
