import LedgerRules.Proofs.Store.Rules

/-!
# The accounts that rules detect

The account that a rule detects is kept beside the actions that set it.
Creating, changing, switching and deleting rules keep the two alike, through
every flush and every rollback, and so no two rules that detect accounts set the
same one.
-/

namespace LedgerRules

/-- Actions that set an account by its text, or set none. -/
def SetsText (actions : Json) : Prop :=
  ∀ value, actions.field? "set_account" = some value →
    ∃ account, value = .str account

instance (actions : Json) : Decidable (SetsText actions) :=
  match found : actions.field? "set_account" with
  | none => .isTrue (by
      intro value same
      rw [found] at same
      cases same)
  | some (.str account) => .isTrue (by
      intro value same
      rw [found] at same
      cases same
      exact ⟨account, rfl⟩)
  | some .null | some (.bool _) | some (.int _) | some (.float _) | some
      (.arr _)
  | some (.obj _) => .isFalse (by
      intro sets
      obtain ⟨account, same⟩ := sets _ found
      cases same)

/-- A rule that keeps the account that its actions set, when it detects
accounts, and no account otherwise. -/
structure RuleRow.Mirrors (row : RuleRow) : Prop where
  setsText : SetsText row.actions
  account : row.ruleType = RuleKind.accountDetection.text →
    row.actions.field? "set_account" = row.detectedAccount.map .str
  none : row.ruleType ≠ RuleKind.accountDetection.text →
    row.detectedAccount = none

namespace RuleSession

open Store (Tabled NewRule)

theorem detectedAccount_of_setsText {actions : Json} (sets : SetsText actions)
    {ruleType : String} (detects : ruleType = RuleKind.accountDetection.text) :
    actions.field? "set_account" = (detectedAccount ruleType actions).map
      .str := by
  rw [detectedAccount, setAccount?, if_pos detects]
  cases found : actions.field? "set_account" with
  | none => rfl
  | some value =>
      obtain ⟨account, rfl⟩ := sets value found
      rfl

theorem detectedAccount_of_ne {ruleType : String}
    (other : ruleType ≠ RuleKind.accountDetection.text) (actions : Json) :
    detectedAccount ruleType actions = none := by
  rw [detectedAccount, setAccount?, if_neg other]
  rfl

/-- A text can be bound. -/
theorem bound_withDetectedAccount {new : NewRule}
    (sets : SetsText new.actions) :
    (withDetectedAccount new).bound = .ok () := by
  unfold withDetectedAccount setAccount?
  dsimp only
  split
  case isTrue =>
    cases found : new.actions.field? "set_account" with
    | none => rfl
    | some value =>
        obtain ⟨account, rfl⟩ := sets value found
        rfl
  case isFalse => rfl

theorem mirrors_of_detectedAccount {row : RuleRow} (sets : SetsText row.actions)
    (detected : row.detectedAccount =
      detectedAccount row.ruleType row.actions) :
    row.Mirrors := by
  refine ⟨sets, ?_, ?_⟩
  · intro detects
    rw [detected]
    exact detectedAccount_of_setsText sets detects
  · intro other
    rw [detected, detectedAccount_of_ne other]

theorem yields_withDetectedAccount {new : NewRule}
    (sets : SetsText new.actions) :
    (withDetectedAccount new).Yields RuleRow.Mirrors := by
  intro row ruleType actions detected
  have sameActions : row.actions = new.actions := actions
  have sameType : row.ruleType = new.ruleType := ruleType
  refine mirrors_of_detectedAccount ?_ ?_
  · rw [sameActions]
    exact sets
  · rw [detected, sameActions, sameType]
    rfl

theorem mem_of_lookUp {name : String} {value : Json}
    {fields : List (String × Json)}
    (found : Json.lookUp name fields = some value) :
    (name, value) ∈ fields := by
  induction fields with
  | nil => cases found
  | cons field rest induction =>
      obtain ⟨key, other⟩ := field
      by_cases same : key = name
      · rw [Json.lookUp, if_pos same] at found
        cases found
        rw [same]
        exact List.mem_cons_self
      · rw [Json.lookUp, if_neg same] at found
        exact List.mem_cons_of_mem _ (induction found)

/-- Accepted actions without their nulls set an account by its text, or set
none. -/
theorem setsText_withoutNulls (actions : Payload.Actions) :
    SetsText (.obj (Payload.withoutNulls actions.dump)) := by
  intro value found
  obtain ⟨dumped, notNull⟩ := List.mem_filter.mp (mem_of_lookUp found)
  have given : value = .ofText? actions.setAccount := by
    simpa [Payload.Actions.dump] using dumped
  cases set : actions.setAccount with
  | none =>
      rw [set] at given
      subst given
      cases notNull
  | some account =>
      rw [set] at given
      exact ⟨account, given⟩

/-- A call on the rules of a store. -/
inductive Call where
  | create (new : NewRule)
  | createAll (drafts : List RuleDraft)
  | update (id : String) (changes : Changes)
  | activate (active : Bool) (id : String)
  | delete (id : String)
  | flush
  | commit
  | rollback

/-- The actions that a call brings into the table set accounts by their text.
Those of changes are checked by the call itself. -/
def Call.BringsText : Call → Prop
  | .create new => SetsText new.actions
  | .createAll drafts => ∀ draft ∈ drafts, SetsText draft.actions
  | _ => True

instance (call : Call) : Decidable call.BringsText :=
  match call with
  | .create new => inferInstanceAs (Decidable (SetsText new.actions))
  | .createAll drafts =>
      inferInstanceAs (Decidable (∀ draft ∈ drafts, SetsText draft.actions))
  | .update .. | .activate .. | .delete _ | .flush | .commit | .rollback =>
      .isTrue trivial

/-- What a flush leaves: its session, or what a rollback leaves when it
fails. -/
def flushedOr (session : RuleSession) :
    Except StoreFault (List RuleRow × RuleSession) → RuleSession
  | .ok (_, after) => after
  | .error _ => session.rollback

/-- What a change leaves: its session, or the session before when it fails. -/
def changedOr (session : RuleSession) :
    Except StoreFault RuleSession → RuleSession
  | .ok after => after
  | .error _ => session

/-- A session after a call.  Everything since the last commit is lost when a
flush fails. -/
def perform (session : RuleSession) : Call → RuleSession
  | .create new => session.flushedOr (session.create new)
  | .createAll drafts => session.flushedOr (session.createAll drafts)
  | .update id changes => session.changedOr (session.update id changes)
  | .activate active id => session.changedOr (session.activate active id)
  | .delete id => session.changedOr (session.delete id)
  | .flush => session.flushedOr (session.flush [])
  | .commit =>
      match session.commit with
      | .ok after => after
      | .error _ => session.rollback
  | .rollback => session.rollback

/-- A session after several calls. -/
def performAll (calls : List Call) (session : RuleSession) : RuleSession :=
  calls.foldl perform session

/-- The rules that a call creates. -/
def Call.news : Call → List NewRule
  | .create new => [withDetectedAccount new]
  | .createAll drafts => drafts.map ofDraft
  | _ => []

/-- What a change makes of a rule: the identifier and the type stay, and so do
actions and account, unless the actions are checked ones with the account that
they set. -/
inductive Revises (row revised : RuleRow) : Prop where
  | kept (id : revised.id = row.id) (ruleType : revised.ruleType = row.ruleType)
      (actions : revised.actions = row.actions)
      (account : revised.detectedAccount = row.detectedAccount)
  | checked (id : revised.id = row.id)
      (ruleType : revised.ruleType = row.ruleType)
      (payload : Payload.Actions)
      (actions : revised.actions = .obj (Payload.withoutNulls payload.dump))
      (account : revised.detectedAccount = detectedAccount revised.ruleType
        revised.actions)

/-- What becomes of a session by a call. -/
inductive Performed (session : RuleSession) (call : Call) :
    RuleSession → Prop where
  | flushed {rows : List RuleRow} {after : RuleSession}
      (success : session.flush call.news = .ok (rows, after)) :
        Performed session call after
  | edited {id : String} {row revised : RuleRow}
      (found : session.get id = .ok row)
      (revises : Revises row revised) : Performed session call
        (session.edit revised)
  | deleted {id : String} {row : RuleRow} (found : session.get id = .ok row) :
      Performed session call
        { session with deletions := row.id :: session.deletions }
  | refused : Performed session call session
  | committed {after : RuleSession} (success : session.commit = .ok after) :
      Performed session call after
  | rolledBack : Performed session call session.rollback

section Steps

variable {session : RuleSession}

theorem exists_checked_of_tidied {Value : Type} {row : RuleRow}
    {part : PayloadPart} {dump : Value → Payload.Fields}
    {checked : Payload.Checked Value} {written : Json}
    (success : tidied row part dump checked = .ok written) :
    ∃ value, checked = .accepted value ∧
      written = .obj (Payload.withoutNulls (dump value)) := by
  cases checked with
  | accepted value =>
      cases success
      exact ⟨value, rfl, rfl⟩
  | rejected problems => cases success
  | overflowed => cases success

/-- A payload that a change gives is accepted, and written as it was read. -/
theorem written_of_mapM_tidied {Value : Type} {row : RuleRow}
    {part : PayloadPart} {dump : Value → Payload.Fields}
    {check : Payload.Check Value} {given? written? : Option Json}
    (success : given?.mapM (fun given => tidied row part dump (check given)) =
      .ok written?) :
    Option.Rel (fun given written => ∃ value, check given = .accepted value ∧
      written = .obj (Payload.withoutNulls (dump value))) given? written? := by
  cases given? with
  | none =>
      cases success
      exact .none
  | some given =>
      obtain ⟨written, tidying, success⟩ := bind_eq_ok_iff.mp success
      cases success
      exact .some (exists_checked_of_tidied tidying)

theorem performed_flushedOr {call : Call} {news : List NewRule}
    (creates : call.news = news) :
    Performed session call (session.flushedOr (session.flush news)) := by
  cases outcome : session.flush news with
  | error fault => exact .rolledBack
  | ok result =>
      obtain ⟨rows, after⟩ := result
      rw [← creates] at outcome
      exact .flushed outcome

private theorem performed_update (call : Call) (id : String)
    (changes : Changes) :
    Performed session call (session.changedOr (session.update id changes)) := by
  cases outcome : session.update id changes with
  | error fault => exact .refused
  | ok after =>
      obtain ⟨row, found, outcome⟩ := bind_eq_ok_iff.mp outcome
      obtain ⟨conditions?, _, outcome⟩ := bind_eq_ok_iff.mp outcome
      obtain ⟨actions?, checked, outcome⟩ := bind_eq_ok_iff.mp outcome
      cases outcome
      apply Performed.edited found
      cases given : changes.actions with
      | none =>
          rw [given] at checked
          cases checked
          exact .kept rfl rfl rfl rfl
      | some payload =>
          rw [given] at checked
          obtain ⟨actions, tidying, checked⟩ := bind_eq_ok_iff.mp checked
          cases checked
          obtain ⟨accepted, _, rfl⟩ := exists_checked_of_tidied tidying
          exact .checked rfl rfl accepted rfl rfl

theorem performed_activate (call : Call) (active : Bool) (id : String) :
    Performed session call
      (session.changedOr (session.activate active id)) := by
  cases outcome : session.activate active id with
  | error fault => exact .refused
  | ok after =>
      obtain ⟨row, found, outcome⟩ := bind_eq_ok_iff.mp outcome
      cases outcome
      exact .edited found (.kept rfl rfl rfl rfl)

theorem performed_delete (call : Call) (id : String) :
    Performed session call (session.changedOr (session.delete id)) := by
  cases outcome : session.delete id with
  | error fault => exact .refused
  | ok after =>
      obtain ⟨row, found, outcome⟩ := bind_eq_ok_iff.mp outcome
      cases outcome
      exact .deleted found

theorem performed_perform (session : RuleSession) (call : Call) :
    Performed session call (session.perform call) := by
  cases call with
  | create new => exact performed_flushedOr rfl
  | createAll drafts => exact performed_flushedOr rfl
  | update id changes => exact performed_update _ id changes
  | activate active id => exact performed_activate _ active id
  | delete id => exact performed_delete _ id
  | flush => exact performed_flushedOr rfl
  | commit =>
      unfold perform
      cases outcome : session.commit with
      | error fault => exact .rolledBack
      | ok after => exact .committed outcome
  | rollback => exact .rolledBack

end Steps

/-- The rows that a call brings into the table are lawful. -/
def Call.Brings (lawful : RuleRow → Prop) (call : Call) : Prop :=
  ∀ new ∈ call.news, new.Yields lawful

theorem Call.BringsText.brings {call : Call} (brings : call.BringsText) :
    call.Brings RuleRow.Mirrors := by
  intro other member
  cases call with
  | create new =>
      rw [List.mem_singleton.mp member]
      exact yields_withDetectedAccount brings
  | createAll drafts =>
      obtain ⟨draft, memberDraft, rfl⟩ := List.mem_map.mp member
      exact yields_withDetectedAccount (brings draft memberDraft)
  | _ => cases member

/-- What may be asked of rows so that every change keeps it: it depends on the
type, the actions and the account alone, and checked actions with their account
have it. -/
structure Steady (lawful : RuleRow → Prop) : Prop where
  congr : ∀ {row other : RuleRow}, other.ruleType = row.ruleType →
    other.actions = row.actions →
    other.detectedAccount = row.detectedAccount → lawful row → lawful other
  checked : ∀ {row : RuleRow} (payload : Payload.Actions),
    row.actions = .obj (Payload.withoutNulls payload.dump) →
    row.detectedAccount = detectedAccount row.ruleType row.actions → lawful row

theorem steady_mirrors : Steady RuleRow.Mirrors where
  congr type actions account mirrors := by
    refine ⟨?_, ?_, ?_⟩
    · rw [actions]
      exact mirrors.setsText
    · rw [type, actions, account]
      exact mirrors.account
    · rw [type, account]
      exact mirrors.none
  checked payload actions detected := by
    refine mirrors_of_detectedAccount ?_ detected
    rw [actions]
    exact setsText_withoutNulls payload

namespace Steady

variable {lawful : RuleRow → Prop} {session : RuleSession}

theorem revised (steady : Steady lawful) {row revised : RuleRow}
    (revises : Revises row revised) (isLawful : lawful row) :
    lawful revised := by
  cases revises with
  | kept _ ruleType actions account =>
      exact steady.congr ruleType actions account isLawful
  | checked _ _ payload actions account =>
      exact steady.checked payload actions account

private theorem holds_perform (steady : Steady lawful)
    (holds : Holds lawful session) {call : Call} (brings : call.Brings lawful) :
    Holds lawful (session.perform call) := by
  have performed := performed_perform session call
  generalize session.perform call = after at performed
  cases performed with
  | flushed success => exact holds_of_flush success holds brings
  | edited found revises =>
      exact holds_edit holds
        (steady.revised revises (lawful_of_get found holds))
  | deleted => exact ⟨holds.committed, holds.current, holds.edits⟩
  | refused => exact holds
  | committed success => exact holds_of_commit success holds
  | rolledBack => exact holds_start holds.committed

theorem holds_performAll (steady : Steady lawful) (holds : Holds lawful session)
    {calls : List Call} (brings : ∀ call ∈ calls, call.Brings lawful) :
    Holds lawful (session.performAll calls) := by
  induction calls generalizing session with
  | nil => exact holds
  | cons call rest induction =>
      obtain ⟨first, others⟩ := List.forall_mem_cons.mp brings
      exact induction (steady.holds_perform holds first) others

end Steady

theorem holds_performAll {session : RuleSession}
    (holds : Holds RuleRow.Mirrors session) {calls : List Call}
    (brings : ∀ call ∈ calls, call.BringsText) :
    Holds RuleRow.Mirrors (session.performAll calls) :=
  steady_mirrors.holds_performAll holds fun call member =>
    (brings call member).brings

/-- Two rules that detect accounts and set the same one. -/
def SetSame (left right : RuleRow) : Prop :=
  left.ruleType = RuleKind.accountDetection.text ∧
    right.ruleType = RuleKind.accountDetection.text ∧
    ∃ account, left.actions.field? "set_account" = some account ∧
      right.actions.field? "set_account" = some account

/-- Rules that mirror their actions and do not clash do not set the same
account. -/
theorem not_setSame_of_mirrors {left right : RuleRow}
    (leftMirrors : left.Mirrors) (rightMirrors : right.Mirrors)
    (apart : Store.clash left right = false) :
    ¬ SetSame left right := by
  rintro ⟨leftDetects, rightDetects, account, leftSets, rightSets⟩
  rw [leftMirrors.account leftDetects] at leftSets
  rw [rightMirrors.account rightDetects] at rightSets
  obtain ⟨detected, leftDetected, rfl⟩ := Option.map_eq_some_iff.mp leftSets
  obtain ⟨other, rightDetected, same⟩ := Option.map_eq_some_iff.mp rightSets
  cases same
  apply Bool.eq_false_iff.mp apart
  simp [Store.clash, leftDetected, rightDetected, leftDetects, rightDetects]

/-- From an empty table on, whatever is called: the table keeps the account that
the actions set for every rule that detects accounts, none for every other rule,
and no two rules that detect accounts set the same one. -/
theorem mirrored_performAll {store : Store} (empty : store.rules = [])
    {calls : List Call} (brings : ∀ call ∈ calls, call.BringsText) :
    (∀ row ∈ ((start store).performAll calls).current.rules,
        (row.ruleType = RuleKind.accountDetection.text →
          row.actions.field? "set_account" = row.detectedAccount.map .str) ∧
        (row.ruleType ≠ RuleKind.accountDetection.text →
          row.detectedAccount = none)) ∧
      ((start store).performAll calls).current.rules.Pairwise fun left right =>
        ¬ SetSame left right := by
  have tabled : Tabled RuleRow.Mirrors store := by
    constructor
    · intro row member
      rw [empty] at member
      cases member
    · rw [empty]
      exact .nil
  have current := (holds_performAll (holds_start tabled) brings).current
  constructor
  · intro row member
    exact ⟨(current.rows row member).account, (current.rows row member).none⟩
  · refine current.compatible.imp_of_mem ?_
    intro left right memberLeft memberRight compatible
    exact not_setSame_of_mirrors (current.rows left memberLeft)
      (current.rows right memberRight)
      compatible.apart

def detecting (name account : String) : NewRule where
  name := some name
  ruleType := RuleKind.accountDetection.text
  actions := .obj [("set_account", .str account)]

/-- Two rules are created and committed; then the second one is changed to set
the account of the first one, which the flush behind it refuses, and is changed
again. -/
def reassigning : List Call :=
  [.create (detecting "Wallet" "wallet"),
    .create (detecting "Savings" "savings"), .commit,
    .update "rule-2"
    { actions := some (.obj [("set_account", .str "wallet")]) }, .flush,
    .update "rule-2" { actions := some (.obj [("set_account", .str "vault")]) },
      .flush]

/-- The rules at the end. -/
def reassigned : List RuleRow :=
  ((start (Store.empty ⟨2024, 5, 1⟩)).performAll reassigning).current.rules

theorem mirrored_performAll_reassigning :
    (∀ call ∈ reassigning, call.BringsText) ∧
      reassigned.map RuleRow.detectedAccount = [some "wallet", some "vault"] ∧
      (∀ row ∈ reassigned,
        (row.ruleType = RuleKind.accountDetection.text →
          row.actions.field? "set_account" = row.detectedAccount.map .str) ∧
        (row.ruleType ≠ RuleKind.accountDetection.text →
          row.detectedAccount = none)) ∧
      reassigned.Pairwise fun left right => ¬ SetSame left right := by
  have brings : ∀ call ∈ reassigning, call.BringsText := by decide
  exact ⟨brings, by decide +kernel, mirrored_performAll rfl brings⟩

end RuleSession

end LedgerRules
