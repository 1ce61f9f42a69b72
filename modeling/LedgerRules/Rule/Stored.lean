import LedgerRules.Calendar.Timestamp
import LedgerRules.Payload.RuleRequest
import LedgerRules.Rule.Action
import LedgerRules.Rule.Kind

/-!
# Stored rules

A stored rule keeps its conditions and actions as JSON, which nobody has
checked.  `compile` checks them and makes them ready for evaluation, or says in
which way the rule is malformed.
-/

namespace LedgerRules

/-- A rule as it is stored. -/
structure StoredRule where
  id : String
  name : String
  priority : Int := 0
  isActive : Bool := true
  ruleType : String := RuleKind.general.text
  logic : String := Logic.all.text
  conditions : Json := .obj []
  actions : Json := .obj []
  transferTo : Option String := none
  createdAt : Option Timestamp := none
deriving Repr, Inhabited

/-- A rule that is ready for evaluation. -/
structure Rule where
  id : String
  name : String
  priority : Int
  kind : RuleKind
  logic : Logic
  conditions : List Condition
  actions : List Action
  createdAt : Option Timestamp
deriving DecidableEq, Repr, Inhabited

/-- In which way a stored rule is malformed. -/
inductive Malformation where
  | unknownType (ruleType : String)
  | unknownLogic (logic : String)
  | badConditions (problems : List Payload.Problem)
  | badActions (problems : List Payload.Problem)
deriving DecidableEq, Repr

/-- The wording of a malformation. -/
def Malformation.reason : Malformation → String
  | .unknownType ruleType => "unknown rule type '" ++ ruleType ++ "'"
  | .unknownLogic logic => "unknown condition logic '" ++ logic ++ "'"
  | .badConditions problems =>
      "bad conditions: " ++ Payload.Problem.describeAll problems
  | .badActions problems =>
      "bad actions: " ++ Payload.Problem.describeAll problems

/-- Why a stored rule does not compile: it is malformed, or its pattern is
beyond all bounds, in a number or in the depth of its parts. -/
inductive CompileFault where
  | malformed (malformation : Malformation)
  | overflow
deriving DecidableEq, Repr

/-- The sources of a list, each once and in order. -/
def distinctSorted (sources : List String) : List String :=
  sources.eraseDups.mergeSort fun left right => decide (left ≤ right)

namespace Payload

/-- The conditions that a payload states, in the order of its fields. -/
def Conditions.compile (payload : Conditions) : List Condition :=
  List.flatten [
    (payload.rawTextContains.map Condition.rawTextContains).toList,
    (payload.descriptionContains.map Condition.descriptionContains).toList,
    (payload.descriptionPattern.map Condition.descriptionMatches).toList,
    (payload.amountBetween.map fun range =>
      Condition.amountBetween (.ofDouble range.1) (.ofDouble range.2)).toList,
    (payload.amountEquals.map fun value => Condition.amountEquals
      (.ofDouble value)).toList,
    (payload.source.map fun sources =>
      Condition.sourceIn (distinctSorted sources)).toList,
    (payload.type.map Condition.typeIs).toList,
    (payload.fromAccount.map Condition.fromAccount).toList,
    (payload.toAccount.map Condition.toAccount).toList,
    (payload.category.map Condition.categoryIs).toList]

/-- The actions that a payload states, in the order of its fields.  Empty texts
and blank notes state nothing; the destination of a transfer may stand in the
rule instead of in the payload. -/
def Actions.compile (payload : Actions) (transferTo : Option String) :
    List Action :=
  List.flatten [
    ((nonEmpty? payload.setType).map Action.setType).toList,
    ((nonEmpty? payload.setCategory).map Action.setCategory).toList,
    ((nonEmpty? payload.setAccount).map Action.setAccount).toList,
    (((nonEmpty? payload.linkToAccount).or (nonEmpty? transferTo)).map
      Action.linkTo).toList,
    (if payload.autoReconcile = some true then [Action.reconcile] else []),
    ((nonEmpty? (payload.addNote.map trimBlank)).map Action.addNote).toList]

end Payload

namespace StoredRule

/-- A payload, or an empty one when nothing is stored. -/
def payload (stored : Json) : Json :=
  if stored.isTruthy then stored else .obj []

/-- The outcome of a check as a fault of a rule. -/
def compiled {Value : Type}
    (malformation : List Payload.Problem → Malformation) :
    Payload.Checked Value → Except CompileFault Value
  | .accepted value => .ok value
  | .rejected problems => .error (.malformed (malformation problems))
  | .overflowed => .error .overflow

/-- Checks a stored rule and makes it ready for evaluation. -/
def compile (rule : StoredRule) : Except CompileFault Rule := do
  let some kind := RuleKind.ofText? rule.ruleType
    | throw (.malformed (.unknownType rule.ruleType))
  let some logic := Logic.ofText? rule.logic
    | throw (.malformed (.unknownLogic rule.logic))
  let conditions ←
    compiled .badConditions
      (Payload.Conditions.check .storage (payload rule.conditions))
  let actions ← compiled .badActions
    (Payload.Actions.check .storage (payload rule.actions))
  return {
    id := rule.id
    name := rule.name
    priority := rule.priority
    kind, logic
    conditions := conditions.compile
    actions := actions.compile rule.transferTo
    createdAt := rule.createdAt }

/-- The whole text of a malformation, with the rule that has it. -/
def malformedMessage (rule : StoredRule) (malformation : Malformation) :
    String :=
  "Rule '" ++ rule.name ++ "' (id=" ++ rule.id ++ ") is malformed: " ++
    malformation.reason

end StoredRule

end LedgerRules
