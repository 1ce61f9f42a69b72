import LedgerRules.Proofs.Store.PlainRules

/-!
# Changing one rule

The payloads of a change are checked before anything of it is written.  A change
whose payloads do not pass leaves the session as it was.  Any other change
rewrites one rule, in what was given and in the account that its actions set,
and leaves all other rules.
-/

namespace LedgerRules

namespace RuleSession

/-- A payload that is given is accepted. -/
def Passes {Value : Type} (check : Payload.Check Value)
    (given? : Option Json) : Prop :=
  ∀ given ∈ given?, ∃ value, check given = .accepted value

/-- A column after a change: it stays when nothing is given, and otherwise has
what was accepted, written out without nulls. -/
def Rewrites {Value : Type} (check : Payload.Check Value)
    (dump : Value → Payload.Fields) (given? : Option Json)
    (old new : Json) : Prop :=
  match given? with
  | none => new = old
  | some given => ∃ value, check given = .accepted value ∧
      new = .obj (Payload.withoutNulls (dump value))

namespace Changes

/-- Both payloads of a change pass. -/
structure Pass (changes : Changes) : Prop where
  conditions : Passes (Payload.Conditions.check .storage) changes.conditions
  actions : Passes (Payload.Actions.check .storage) changes.actions

/-- A rule after a change that passed. -/
structure Makes (changes : Changes) (row changed : RuleRow) : Prop where
  name : changed.name = changes.name.getD row.name
  conditions : Rewrites (Payload.Conditions.check .storage)
    Payload.Conditions.dump
    changes.conditions row.conditions changed.conditions
  actions : Rewrites (Payload.Actions.check .storage) Payload.Actions.dump
    changes.actions row.actions changed.actions
  priority : changed.priority = changes.priority.getD row.priority
  logic : changed.logic = changes.logic.getD row.logic
  keptAccount : changes.actions = none →
    changed.detectedAccount = row.detectedAccount
  newAccount : changes.actions ≠ none →
    row.ruleType = RuleKind.accountDetection.text →
    changed.actions.field? "set_account" = changed.detectedAccount.map .str
  noAccount : changes.actions ≠ none →
    row.ruleType ≠ RuleKind.accountDetection.text →
    changed.detectedAccount = none
  id : changed.id = row.id
  isActive : changed.isActive = row.isActive
  ruleType : changed.ruleType = row.ruleType
  promptText : changed.promptText = row.promptText
  matchPhone : changed.matchPhone = row.matchPhone
  transferTo : changed.transferTo = row.transferTo
  createdAt : changed.createdAt = row.createdAt

end Changes

section Payloads

variable {Value : Type} {row : RuleRow} {part : PayloadPart}
  {dump : Value → Payload.Fields} {check : Payload.Check Value}
  {given? : Option Json}

/-- Why a rule is not changed: a payload of it is refused, or its pattern
overflows. -/
inductive Refuses (row : RuleRow) : StoreFault → Prop where
  | payload (part : PayloadPart) (problems : List Payload.Problem) :
      Refuses row (.badPayload row.id row.name part problems)
  | overflow : Refuses row .overflow

theorem mapM_tidied_cases (row : RuleRow) (part : PayloadPart)
    (dump : Value → Payload.Fields) (check : Payload.Check Value)
    (given? : Option Json) :
    (Passes check given? ∧
      ∃ written?, given?.mapM
        (fun given => tidied row part dump (check given)) = .ok written?) ∨
    (¬ Passes check given? ∧ ∃ fault, Refuses row fault ∧
      given?.mapM (fun given => tidied row part dump (check given)) =
        .error fault) := by
  cases given? with
  | none => exact .inl ⟨nofun, none, rfl⟩
  | some given =>
      rw [Passes, Option.mapM_some]
      cases checked : check given with
      | accepted value => exact .inl ⟨by simp [checked], _, rfl⟩
      | rejected problems =>
          exact .inr ⟨by simp [checked], _, .payload part problems, rfl⟩
      | overflowed => exact .inr ⟨by simp [checked], _, .overflow, rfl⟩

theorem rewrites_of_mapM_tidied {written? : Option Json}
    (success : given?.mapM (fun given => tidied row part dump (check given)) =
      .ok written?)
    (old : Json) : Rewrites check dump given? old (written?.getD old) := by
  cases written_of_mapM_tidied success with
  | none => rfl
  | some written => exact written

end Payloads

variable {changes : Changes} {row changed : RuleRow}

theorem revise_cases (changes : Changes) (row : RuleRow) :
    (changes.Pass ∧ ∃ changed, changes.revise row = .ok changed) ∨
    (¬ changes.Pass ∧ ∃ fault, Refuses row fault ∧
      changes.revise row = .error fault) := by
  rcases mapM_tidied_cases row .conditions Payload.Conditions.dump
      (Payload.Conditions.check .storage) changes.conditions with
    ⟨conditionsPass, conditions?, conditions⟩ | ⟨conditionsFail, fault, refuses,
      failed⟩
  case inr =>
    refine .inr ⟨fun pass => conditionsFail pass.conditions, fault, refuses, ?_⟩
    rw [Changes.revise, failed]
    rfl
  case inl =>
    rcases mapM_tidied_cases row .actions Payload.Actions.dump
        (Payload.Actions.check .storage) changes.actions with
      ⟨actionsPass, actions?, actions⟩ | ⟨actionsFail, fault, refuses, failed⟩
    case inl =>
      refine .inl ⟨⟨conditionsPass, actionsPass⟩, ?_⟩
      rw [Changes.revise, conditions, actions]
      exact ⟨_, rfl⟩
    case inr =>
      refine .inr ⟨fun pass => actionsFail pass.actions, fault, refuses, ?_⟩
      rw [Changes.revise, conditions, failed]
      rfl

theorem makes_of_revise (success : changes.revise row = .ok changed) :
    changes.Makes row changed := by
  obtain ⟨_, _, givenActions, _, _⟩ := changes
  obtain ⟨conditions?, conditions, success⟩ := bind_eq_ok_iff.mp success
  obtain ⟨actions?, actions, success⟩ := bind_eq_ok_iff.mp success
  cases success
  have written := written_of_mapM_tidied actions
  refine {
    name := rfl
    conditions := rewrites_of_mapM_tidied conditions row.conditions
    actions := rewrites_of_mapM_tidied actions row.actions
    priority := rfl
    logic := rfl
    keptAccount := ?_
    newAccount := ?_
    noAccount := ?_
    id := rfl
    isActive := rfl
    ruleType := rfl
    promptText := rfl
    matchPhone := rfl
    transferTo := rfl
    createdAt := rfl }
  · rintro ⟨⟩
    cases written
    rfl
  · intro given detects
    cases written with
    | none => exact (given rfl).elim
    | some written =>
        obtain ⟨value, _, rfl⟩ := written
        exact detectedAccount_of_setsText (setsText_withoutNulls value) detects
  · intro given other
    cases written with
    | none => exact (given rfl).elim
    | some written => exact detectedAccount_of_ne other _

private theorem update_cases {session : RuleSession} {id : String}
    {row : RuleRow} (found : session.get id = .ok row) (changes : Changes) :
    (changes.Pass ∧ ∃ changed, changes.Makes row changed ∧
      session.update id changes = .ok (session.edit changed)) ∨
    (¬ changes.Pass ∧ ∃ fault, Refuses row fault ∧
      session.update id changes = .error fault) := by
  rw [update_eq, found]
  rcases revise_cases changes row
    with ⟨pass, changed, revising⟩ | ⟨fail, fault, refuses, failed⟩
  · refine .inl ⟨pass, changed, makes_of_revise revising, ?_⟩
    simp only [revising, bind, Except.bind]
    rfl
  · refine .inr ⟨fail, fault, refuses, ?_⟩
    simp only [failed, bind, Except.bind]

/-- Whatever was called in a session on a table of compatible rules, and
whatever is changed of a rule then.  When a payload does not pass, the change
fails and the session is as it was.  When both pass, the change is made: the
rule is found with exactly what was given changed, all others are found as
before, and once the session is flushed the table has just that. -/
theorem update_rewrites_or_keeps {store : Store}
    (compatible : store.rules.Pairwise Store.Compatible) (calls : List Call)
    {id : String} {row : RuleRow}
    (found : ((start store).performAll calls).get id = .ok row)
    (changes : Changes) :
    let session := (start store).performAll calls
    let after := session.perform (.update id changes)
    (¬ changes.Pass →
        (∃ fault, Refuses row fault ∧
          session.update id changes = .error fault) ∧
          after = session) ∧
      (changes.Pass →
        session.update id changes = .ok after ∧
          ∃ changed, changes.Makes row changed ∧ after.get id = .ok changed ∧
            (∀ other, other ≠ id → after.get other = session.get other) ∧
            ∀ created flushed, after.flush [] = .ok (created, flushed) →
              flushed.current.rules = session.remaining.map fun other =>
                if other.id = id then changed else other) := by
  intro session after
  have orderly : Orderly session :=
    ((follows_start ⟨fun _ _ => trivial, compatible⟩).performAll calls).orderly
  rcases update_cases found changes
    with ⟨pass, changed, makes, updated⟩ | ⟨fail, fault, failed⟩
  case inr =>
    refine ⟨fun _ => ⟨⟨fault, failed⟩, ?_⟩, fun pass => (fail pass).elim⟩
    exact congrArg session.changedOr failed.2
  case inl =>
    have made : after = session.edit changed :=
      congrArg session.changedOr updated
    have rowId : row.id = id := id_of_get orderly found
    have changedId : changed.id = id := makes.id.trans rowId
    refine ⟨fun fail => (fail pass).elim, fun _ => ?_⟩
    rw [made]
    refine ⟨updated, changed, makes, get_edit found makes.id, ?_, ?_⟩
    · intro other different
      exact get_edit_of_ne fun same => different (same.symm.trans changedId)
    · intro created flushed flushing
      obtain ⟨written, none⟩ :=
        rules_of_flush flushing (orderly_edit orderly changed)
      have edited : (session.edit changed).remaining =
          revised id (fun _ => .ok changed) session.remaining :=
        remaining_edit orderly found rfl changedId
      rw [written, List.forall₂_nil_left_iff.mp none, List.append_nil, edited]
      rfl

/-- A rule for a wallet and one for the savings are created and committed, and
the one for the wallet is switched off. -/
def walletCalls : List Call :=
  [.create (detecting "Wallet" "wallet"),
    .create (detecting "Savings" "savings"), .commit, .activate false "rule-1"]

/-- A new name and actions that set another account. -/
def pursing : Changes where
  name := some "Purse"
  actions := some (.obj [("set_account", .str "purse"), ("add_note", .null)])

/-- Changes with conditions that pass and actions that do not. -/
def gifting : Changes where
  name := some "Gift"
  conditions := some (.obj [("source", .arr [.str "sms"])])
  actions := some (.obj [("set_type", .str "gift")])

theorem update_rewrites_or_keeps_wallet :
    freshStore.rules.Pairwise Store.Compatible ∧
      ¬ gifting.Pass ∧
      ((start freshStore).performAll walletCalls).perform
        (.update "rule-1" gifting) =
        (start freshStore).performAll walletCalls ∧
      pursing.Pass ∧
      ∃ row changed, ((start freshStore).performAll walletCalls).get "rule-1" =
        .ok row ∧
        pursing.Makes row changed ∧
        (((start freshStore).performAll walletCalls).perform
          (.update "rule-1" pursing)).get "rule-1" = .ok changed := by
  have compatible : freshStore.rules.Pairwise Store.Compatible := .nil
  obtain ⟨row, found⟩ := eq_ok_of_fault? (show
    fault? (((start freshStore).performAll walletCalls).get "rule-1") = none by
    decide +kernel)
  obtain ⟨refused, given⟩ := update_rewrites_or_keeps compatible walletCalls
    found gifting
  obtain ⟨_, made⟩ := update_rewrites_or_keeps compatible walletCalls found
    pursing
  have fail : ¬ gifting.Pass := by
    intro pass
    have answered := congrArg fault? (given pass).1
    exact absurd answered (by decide +kernel)
  have pass : pursing.Pass := by
    refine ⟨nofun, ?_⟩
    rintro _ ⟨⟩
    exact ⟨{ setAccount := some "purse" }, by decide⟩
  obtain ⟨_, changed, makes, foundAfter, _⟩ := made pass
  exact ⟨compatible, fail, (refused fail).2, pass, row, changed, found, makes,
    foundAfter⟩

end RuleSession

end LedgerRules
