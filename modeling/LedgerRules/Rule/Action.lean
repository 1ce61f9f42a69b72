import LedgerRules.Json.Basic

/-!
# Actions

What a rule does to a resolution, and how its contributions are credited.
-/

namespace LedgerRules

/-- An action of a rule on a resolution. -/
inductive Action where
  | setType (type : String)
  | setCategory (categoryId : String)
  | setAccount (accountId : String)
  | linkTo (accountId : String)
  | reconcile
  | addNote (note : String)
deriving DecidableEq, Repr

namespace Action

/-- The name under which a contribution of the action is credited. -/
def key : Action → String
  | setType _ => "set_type"
  | setCategory _ => "set_category"
  | setAccount _ => "set_account"
  | linkTo _ => "link_to_account"
  | reconcile => "auto_reconcile"
  | addNote _ => "add_note"

/-- What a contribution of the action is credited with. -/
def credit : Action → Json
  | setType value | setCategory value | setAccount value | linkTo
      value | addNote value =>
      .str value
  | reconcile => .bool true

end Action

end LedgerRules
