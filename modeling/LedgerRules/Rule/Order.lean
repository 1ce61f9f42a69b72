import LedgerRules.Rule.Stored

/-!
# The order of rules

Rules of greater priority come first; among those of one priority, rules without
a time of creation, then older ones, then those of smaller identifiers.
-/

namespace LedgerRules

/-- What rules are ordered by. -/
structure SortKey where
  descendingPriority : Int
  dated : Bool
  seconds : Double
  ruleId : String
deriving DecidableEq, Repr

namespace Rule

/-- The sort key of a rule.  Rules without a time of creation come first among
those of one priority. -/
def sortKey (rule : Rule) : SortKey :=
  match rule.createdAt with
  | some createdAt => ⟨-rule.priority, true, createdAt.seconds, rule.id⟩
  | none => ⟨-rule.priority, false, .ofInt 0, rule.id⟩

end Rule

def SortKey.order (left right : SortKey) : Ordering :=
  (compare left.descendingPriority right.descendingPriority).then
    ((compare left.dated right.dated).then
      (((left.seconds.compare? right.seconds).getD .eq).then
        (compare left.ruleId right.ruleId)))

/-- Whether a rule may stand before another one. -/
def Rule.precedes (left right : Rule) : Bool :=
  left.sortKey.order right.sortKey ≠ .gt

end LedgerRules
