import LedgerRules.Payload.Conditions

/-!
# Payload of actions

What a stored rule does to the transactions that it applies to.
-/

namespace LedgerRules

namespace Payload

/-- The actions of a rule, each of which may be absent. -/
structure Actions where
  setType : Option String := none
  setCategory : Option String := none
  setAccount : Option String := none
  linkToAccount : Option String := none
  autoReconcile : Option Bool := none
  addNote : Option String := none
deriving DecidableEq, Repr

namespace Actions

/-- The names of the fields, in order. -/
def names : List String :=
  ["set_type", "set_category", "set_account", "link_to_account",
    "auto_reconcile", "add_note"]

def checkFields (fields : Fields) : Checked Actions :=
  (Actions.mk
    <$> optional fields "set_type" (oneOf transactionTypes)
    <*> optional fields "set_category" text
    <*> optional fields "set_account" text
    <*> optional fields "link_to_account" text
    <*> optional fields "auto_reconcile" bool
    <*> optional fields "add_note" text).alsoReporting
      (unknownFields names fields)

def check (origin : Origin) : Check Actions :=
  model origin "RuleActions" checkFields

/-- The payload with every field written out, absent ones as `null`. -/
def dump (actions : Actions) : Fields :=
  [("set_type", .ofText? actions.setType),
    ("set_category", .ofText? actions.setCategory),
    ("set_account", .ofText? actions.setAccount),
    ("link_to_account", .ofText? actions.linkToAccount),
    ("auto_reconcile", (actions.autoReconcile.map Json.bool).getD .null),
    ("add_note", .ofText? actions.addNote)]

end Actions

end Payload

end LedgerRules
