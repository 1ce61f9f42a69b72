import LedgerRules.Rule.Order

/-!
# Selection of rules

A resolution runs the active rules whose kind serves its intent, the ones of
greater priority first.  Every active rule is compiled, and those that are
malformed are reported as issues.
-/

namespace LedgerRules

/-- Something that a resolution left out, for those who look after the rules. -/
structure Issue where
  ruleId : Option String
  ruleName : String
  reason : String
deriving DecidableEq, Repr

/-- What a resolution is for. -/
inductive Intent where
  | general
  | accountDetection
deriving DecidableEq, Repr, Inhabited

namespace Intent

/-- The intent with a name. -/
def ofText? : String → Option Intent
  | "general" => some general
  | "account_detection" => some accountDetection
  | _ => none

/-- The complaint about a name that no intent has. -/
def unknownMessage (name : String) : String :=
  "Unknown resolution intent: " ++ name

def allows : Intent → RuleKind → Bool
  | general, _ => true
  | accountDetection, kind => kind = .accountDetection

end Intent

/-- A pattern of a rule is beyond all bounds. -/
structure PatternOverflow where
deriving DecidableEq, Repr

/-- The selected rules in order, and the issues of the rules that were
skipped. -/
structure Selection where
  rules : List Rule
  issues : List Issue
deriving DecidableEq, Repr

namespace Selection

/-- The rules for an intent in stored order, and the issues of malformed
rules. -/
def gather (intent : Intent) :
    List StoredRule → Except PatternOverflow Selection
  | [] => .ok ⟨[], []⟩
  | stored :: rest =>
      if !stored.isActive then gather intent rest
      else match stored.compile with
        | .error .overflow => .error {}
        | .error (.malformed malformation) => do
            let selection ← gather intent rest
            let issue : Issue :=
              ⟨some stored.id, stored.name, malformation.reason⟩
            return { selection with issues := issue :: selection.issues }
        | .ok rule => do
            let selection ← gather intent rest
            if intent.allows rule.kind then
              return { selection with rules := rule :: selection.rules }
            else return selection

/-- Selects the rules for an intent and puts them in order. -/
def select (intent : Intent) (stored : List StoredRule) :
    Except PatternOverflow Selection := do
  let selection ← gather intent stored
  return { selection with rules := selection.rules.mergeSort Rule.precedes }

end Selection

end LedgerRules
