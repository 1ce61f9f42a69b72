import LedgerRules.Store.Basic

/-!
# Working on rules

A session works on the rules of a store.  Rules that are read, edited or deleted
in a session are changed in the table only when the session is flushed, which
creating rules and committing do.  Until then listings find and order rules by
what the table says, and show them as they were edited.
-/

namespace LedgerRules

/-- A session: the store at the last commit, the store as flushed since then,
the edited rules that are not flushed, and the identifiers of the rules to be
deleted. -/
structure RuleSession where
  committed : Store
  current : Store
  edits : List RuleRow := []
  deletions : List String := []

namespace RuleSession

def start (store : Store) : RuleSession :=
  { committed := store, current := store }

def seen (session : RuleSession) (row : RuleRow) : RuleRow :=
  (session.edits.find? (·.id = row.id)).getD row

/-- The rule with an identifier. -/
def get (id : String) (session : RuleSession) : Except StoreFault RuleRow :=
  match session.current.rules.find? (·.id = id) with
  | some row => .ok (session.seen row)
  | none => .error (.ruleNotFound id)

def edit (row : RuleRow) (session : RuleSession) : RuleSession :=
  { session with edits := row :: session.edits.filter fun other => other.id ≠
    row.id }

/-- Forgets everything since the last commit. -/
def rollback (session : RuleSession) : RuleSession :=
  .start session.committed

/-- Writes edited rules into the table, in the order of their identifiers. -/
def writeEdits : List RuleRow → Store → Except StoreFault Store
  | [], store => .ok store
  | row :: rest, store => do writeEdits rest (← store.updateRule row)

/-- Flushes the session together with new rules: edits first, then the new rules
in order, then deletions. -/
def flush (new : List Store.NewRule) (session : RuleSession) :
    Except StoreFault (List RuleRow × RuleSession) := do
  let edits := session.edits.filter fun row =>
    !session.deletions.contains row.id
  let edits := edits.mergeSort fun left right => decide (left.id ≤ right.id)
  let store ← writeEdits edits session.current
  let (rows, store) ← store.insertRules new
  let store :=
    session.deletions.foldl (fun store id => store.removeRule id) store
  return (rows, { committed := session.committed, current := store })

/-- Flushes the session and makes its changes last. -/
def commit (session : RuleSession) : Except StoreFault RuleSession := do
  let (_, session) ← session.flush []
  return .start session.current

/-- The text that a column of text keeps of a value, if it keeps one.  Truth
values are kept as digits. -/
def columnText : Json → Option String
  | .str value => some value
  | .bool value => some (if value then "1" else "0")
  | .int value => some (toString value)
  | .float value => value.columnText?
  | .null | .arr _ | .obj _ => none

/-- Whether a value can be bound to a column of text. -/
def bound : Json → Except StoreFault Unit
  | .int value => do
      let _ ← Store.storedInt value
  | .arr _ | .obj _ => .error .unbindable
  | _ => .ok ()

/-- What the actions of a rule set as its account, for rules that detect
accounts. -/
def setAccount? (ruleType : String) (actions : Json) : Option Json :=
  if ruleType = RuleKind.accountDetection.text then actions.field? "set_account"
    else none

/-- The account that a rule detects: what the column of text keeps of what its
actions set. -/
def detectedAccount (ruleType : String) (actions : Json) : Option String :=
  (setAccount? ruleType actions).bind columnText

/-- The columns of a rule that is created. -/
def withDetectedAccount (new : Store.NewRule) : Store.NewRule :=
  { new with
    detectedAccount := detectedAccount new.ruleType new.actions
    bound := ((setAccount? new.ruleType new.actions).map bound).getD (.ok ()) }

def create (new : Store.NewRule) (session : RuleSession) :
    Except StoreFault (List RuleRow × RuleSession) :=
  session.flush [withDetectedAccount new]

def ofDraft (draft : RuleDraft) : Store.NewRule :=
  withDetectedAccount {
    name := some draft.name
    conditions := draft.conditions
    actions := draft.actions
    priority := draft.priority
    ruleType := draft.ruleType
    logic := draft.logic
    isActive := draft.isActive }

/-- Creates all drafted rules, or none when one of them clashes. -/
def createAll (drafts : List RuleDraft) (session : RuleSession) :
    Except StoreFault (List RuleRow × RuleSession) :=
  session.flush (drafts.map ofDraft)

/-- The outcome of checking a payload of a rule, without its nulls. -/
def tidied {Value : Type} (row : RuleRow) (part : PayloadPart)
    (dump : Value → Payload.Fields) :
    Payload.Checked Value → Except StoreFault Json
  | .accepted value => .ok (.obj (Payload.withoutNulls (dump value)))
  | .rejected problems => .error (.badPayload row.id row.name part problems)
  | .overflowed => .error .overflow

/-- The changes to a rule; what is absent stays as it is. -/
structure Changes where
  name : Option String := none
  conditions : Option Json := none
  actions : Option Json := none
  priority : Option Int := none
  logic : Option String := none
deriving Repr

/-- Changes a rule.  Payloads are checked first, and nothing is changed when one
of them is refused. -/
def update (id : String) (changes : Changes) (session : RuleSession) :
    Except StoreFault RuleSession := do
  let row ← session.get id
  let conditions? ← changes.conditions.mapM fun payload =>
    tidied row .conditions Payload.Conditions.dump
      (Payload.Conditions.check .storage payload)
  let actions? ← changes.actions.mapM fun payload =>
    tidied row .actions Payload.Actions.dump
      (Payload.Actions.check .storage payload)
  return session.edit { row with
    name := changes.name.getD row.name
    conditions := conditions?.getD row.conditions
    actions := actions?.getD row.actions
    detectedAccount := match actions? with
      | some actions => detectedAccount row.ruleType actions
      | none => row.detectedAccount
    priority := changes.priority.getD row.priority
    logic := changes.logic.getD row.logic }

/-- Switches a rule on or off. -/
def activate (active : Bool) (id : String) (session : RuleSession) :
    Except StoreFault RuleSession := do
  let row ← session.get id
  return session.edit { row with isActive := active }

def delete (id : String) (session : RuleSession) :
    Except StoreFault RuleSession := do
  let row ← session.get id
  return { session with deletions := row.id :: session.deletions }

/-- Whether a rule stands before another one in listings, or on a par with it:
greater priority first, then older rules. -/
def listedBefore (left right : RuleRow) : Bool :=
  decide (right.priority < left.priority) ||
    (left.priority = right.priority &&
      decide (left.createdAt ≤ right.createdAt))

/-- Rows in the order of listings; rows on a par keep their order. -/
def listed (rows : List RuleRow) : List RuleRow :=
  rows.mergeSort listedBefore

/-- Whether the account that a rule detects stands before that of another one,
or on a par with it; no account comes first. -/
def accountBefore (left right : RuleRow) : Bool :=
  match left.detectedAccount, right.detectedAccount with
  | none, _ => true
  | some _, none => false
  | some left, some right => decide (left ≤ right)

/-- The rules that pass two optional filters, as the table has them and in the
order of listings.  On a par, rules found by being active come newest first, and
rules found by their type in the order of the accounts that they detect. -/
def filtered (ruleType? : Option String) (isActive? : Option Bool)
    (rows : List RuleRow) :
    List RuleRow :=
  let kept := rows.filter fun row =>
    ruleType?.all (row.ruleType = ·) && isActive?.all (row.isActive = ·)
  listed (match ruleType?, isActive? with
    | _, some _ => kept.reverse
    | some _, none => kept.mergeSort accountBefore
    | none, none => kept)

def all (session : RuleSession) : List RuleRow :=
  (listed session.current.rules).map session.seen

def active (session : RuleSession) : List RuleRow :=
  (filtered none (some true) session.current.rules).map session.seen

def ofType (ruleType : String) (session : RuleSession) : List RuleRow :=
  (filtered (some ruleType) none session.current.rules).map session.seen

/-- One page of the rules that pass the filters, and how many pass them.  Pages
count from one; a negative size sets no limit, and a page before the first one
starts where the first one does. -/
def page (ruleType? : Option String) (isActive? : Option Bool)
    (number size : Int) (session : RuleSession) :
    Except StoreFault (List RuleRow × Nat) := do
  let offset ← Store.storedInt ((number - 1) * size)
  let size ← Store.storedInt size
  let rows := filtered ruleType? isActive? session.current.rules
  let rest := rows.drop offset.toNat
  let shown := if size < 0 then rest else rest.take size.toNat
  return (shown.map session.seen, rows.length)

end RuleSession

end LedgerRules
