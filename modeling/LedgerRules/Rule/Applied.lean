import LedgerRules.Json.Basic

/-!
# Applied rules

The audit trail of a transaction: the rules that contributed to it, each with
exactly the actions that did.
-/

namespace LedgerRules

/-- A rule that contributed, and what it contributed, by the names of its
actions. -/
structure AppliedRule where
  ruleId : String
  ruleName : String
  actions : List (String × Json)
deriving Repr, Inhabited

namespace AppliedRule

def toJson (applied : AppliedRule) : Json :=
  .obj [("rule_id", .str applied.ruleId), ("rule_name", .str applied.ruleName),
    ("actions", .obj applied.actions)]

end AppliedRule

end LedgerRules
