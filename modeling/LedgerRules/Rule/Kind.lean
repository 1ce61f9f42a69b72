import LedgerRules.Rule.Condition

/-!
# Names of kinds and logics

What rules are for, and the names under which kinds of rules and the ways to
combine conditions are stored.
-/

namespace LedgerRules

/-- What a rule is for. -/
inductive RuleKind where
  | general
  | accountDetection
  | transfer
deriving DecidableEq, Repr, Inhabited

namespace RuleKind

/-- The name of a kind. -/
def text : RuleKind → String
  | general => "general"
  | accountDetection => "account_detection"
  | transfer => "transfer"

/-- The kind with a name. -/
def ofText? : String → Option RuleKind
  | "general" => some general
  | "account_detection" => some accountDetection
  | "transfer" => some transfer
  | _ => none

/-- A kind is found by its name. -/
theorem ofText?_text (kind : RuleKind) : ofText? kind.text = some kind := by
  cases kind <;> rfl

end RuleKind

namespace Logic

/-- The name of a way to combine conditions. -/
def text : Logic → String
  | all => "and"
  | any => "or"

/-- The way to combine conditions with a name. -/
def ofText? : String → Option Logic
  | "and" => some all
  | "or" => some any
  | _ => none

/-- A way to combine conditions is found by its name. -/
theorem ofText?_text (logic : Logic) : ofText? logic.text = some logic := by
  cases logic <;> rfl

end Logic

end LedgerRules
