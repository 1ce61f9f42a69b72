import LedgerRules.Proofs.Rule.Gathering
import LedgerRules.Proofs.Rule.Matching
import LedgerRules.Proofs.Service.Tidying
import LedgerRules.Proofs.Store.RuleChanges

/-!
# Changed rules compiled again

The payloads of a change are checked before they are written, and a rule that
compiles still compiles with them.  The logic of a change is written as it is
given.  So a change keeps a rule compiling exactly when it gives no unknown
logic, and the rule that it compiles to then differs in nothing but what was
given.
-/

namespace LedgerRules

namespace RuleSession

open Payload (Conditions Actions withoutNulls)

/-- A change that gives a logic that is not known. -/
def Changes.Garbles (changes : Changes) : Prop :=
  ∃ logic ∈ changes.logic, Logic.ofText? logic = none

/-- A part of a compiled rule after a change: it stays when nothing is given,
and otherwise is what was accepted, compiled. -/
def Recompiled {Value Part : Type} (check : Payload.Check Value)
    (compile : Value → Part) (given? : Option Json) (old new : Part) : Prop :=
  match given? with
  | none => new = old
  | some given => ∃ value, check given = .accepted value ∧ new = compile value

/-- What a rule with a destination of its own compiles to after a change. -/
structure Changes.Recompiles (changes : Changes) (transferTo : Option String)
    (rule changed : Rule) : Prop where
  name : changed.name = changes.name.getD rule.name
  priority : changed.priority = changes.priority.getD rule.priority
  logic : changed.logic.text = changes.logic.getD rule.logic.text
  conditions : Recompiled (Conditions.check .storage) Conditions.compile
    changes.conditions
    rule.conditions changed.conditions
  actions : Recompiled (Actions.check .storage) (Actions.compile · transferTo)
    changes.actions
    rule.actions changed.actions
  id : changed.id = rule.id
  kind : changed.kind = rule.kind
  createdAt : changed.createdAt = rule.createdAt

theorem exists_recompiled {Value Part : Type} {check : Payload.Check Value}
    {dump : Value → Payload.Fields} {given? : Option Json} {old new : Json}
    {before : Value}
    (again : ∀ {given : Json} {value : Value}, check given = .accepted value →
      check (.obj (withoutNulls (dump value))) = .accepted value)
    (rewrites : Rewrites check dump given? old new)
    (accepted : check (StoredRule.payload old) = .accepted before)
    (compile : Value → Part) :
    ∃ value, check (StoredRule.payload new) = .accepted value ∧
      Recompiled check compile given? (compile before) (compile value) := by
  cases given? with
  | none =>
      have same : new = old := rewrites
      exact ⟨before, same ▸ accepted, rfl⟩
  | some given =>
      obtain ⟨value, checked, rfl⟩ := rewrites
      exact ⟨value, (StoredRule.payload_obj _).symm ▸ again checked, value,
        checked, rfl⟩

section Rows

variable {changes : Changes} {row changed : RuleRow} {rule : Rule}

theorem exists_recompiles (makes : changes.Makes row changed)
    (working : row.stored.compile = .ok rule) {logic : Logic}
    (known : Logic.ofText? changed.logic = some logic) :
    ∃ again, changed.stored.compile = .ok again ∧
      changes.Recompiles row.transferTo rule again := by
  obtain ⟨kind, before, conditions, actions, isKind, isLogic,
    conditionsAccepted, actionsAccepted, rfl⟩ :=
      StoredRule.compile_eq_ok_iff.mp working
  obtain ⟨newConditions, newConditionsAccepted, conditionsCompiled⟩ :=
    exists_recompiled
      (fun accepted => Conditions.check_dump
        (Conditions.lawful_of_check accepted) _)
      makes.conditions conditionsAccepted Conditions.compile
  obtain ⟨newActions, newActionsAccepted, actionsCompiled⟩ :=
    exists_recompiled
      (fun accepted => Actions.check_dump (Actions.lawful_of_check accepted) _)
      makes.actions actionsAccepted (Actions.compile · row.transferTo)
  have sameKind : RuleKind.ofText? changed.stored.ruleType = some kind :=
    (congrArg RuleKind.ofText? makes.ruleType).trans isKind
  refine ⟨_, StoredRule.compile_eq_ok_iff.mpr
    ⟨kind, logic, newConditions, newActions, sameKind, known,
      newConditionsAccepted, newActionsAccepted, rfl⟩, ?_⟩
  exact {
    name := makes.name
    priority := makes.priority
    logic := by
      rw [← Logic.text_of_ofText? known, ← Logic.text_of_ofText? isLogic]
      exact makes.logic
    conditions := conditionsCompiled
    actions := by
      have sameDestination : changed.stored.transferTo = row.transferTo :=
        makes.transferTo
      rw [sameDestination]
      exact actionsCompiled
    id := makes.id
    kind := rfl
    createdAt := congrArg (fun createdAt => some (Timestamp.mk createdAt none))
      makes.createdAt }

private theorem garbles_iff (makes : changes.Makes row changed)
    (working : row.stored.compile = .ok rule) :
    changes.Garbles ↔ Logic.ofText? changed.logic = none := by
  obtain ⟨_, logic, _, _, _, isLogic, _⟩ :=
    StoredRule.compile_eq_ok_iff.mp working
  have known : Logic.ofText? row.logic = some logic := isLogic
  rw [makes.logic, Changes.Garbles]
  cases changes.logic with
  | none => simp [known]
  | some given => simp

theorem compile_of_unknownLogic {stored : StoredRule} {kind : RuleKind}
    (isKind : RuleKind.ofText? stored.ruleType = some kind)
    (unknown : Logic.ofText? stored.logic = none) :
    stored.compile = .error (.malformed (.unknownLogic stored.logic)) := by
  unfold StoredRule.compile
  rw [isKind, unknown]
  rfl

end Rows

/-- Whatever is changed of a rule that compiles, and in whatever session: when
the change is made, the changed rule compiles exactly when the change gives no
unknown logic, and then differs from the rule before only in what the change
gives.  Otherwise the changed rule is malformed in its logic, and every
selection that finds it active reports it. -/
theorem compiles_iff_not_garbles {session after : RuleSession} {id : String}
    {row : RuleRow} {rule : Rule} {changes : Changes}
    (found : session.get id = .ok row) (working : row.stored.compile = .ok rule)
    (updated : session.update id changes = .ok after) :
    ∃ changed, after.get id = .ok changed ∧ changes.Makes row changed ∧
      ((∃ again, changed.stored.compile = .ok again) ↔ ¬ changes.Garbles) ∧
      (∀ again, changed.stored.compile = .ok again →
        changes.Recompiles row.transferTo rule again) ∧
      (changes.Garbles →
        changed.stored.compile =
          .error (.malformed (.unknownLogic changed.logic)) ∧
        ∀ intent stored selection, changed.stored ∈ stored →
          changed.isActive = true →
          Selection.select intent stored = .ok selection →
            ⟨some changed.id, changed.name, "unknown condition logic '" ++
              changed.logic ++ "'"⟩
              ∈ selection.issues) := by
  rw [update_eq] at updated
  obtain ⟨_, foundRow, updated⟩ := bind_eq_ok_iff.mp updated
  cases found.symm.trans foundRow
  obtain ⟨changed, revising, updated⟩ := bind_eq_ok_iff.mp updated
  cases updated
  have makes := makes_of_revise revising
  have garbles := garbles_iff makes working
  refine ⟨changed, get_edit found makes.id, makes, ?_⟩
  cases known : Logic.ofText? changed.logic with
  | some logic =>
      have clear : ¬ changes.Garbles := by
        rw [garbles, known]
        nofun
      obtain ⟨again, compiled, recompiles⟩ :=
        exists_recompiles makes working known
      refine ⟨iff_of_true ⟨again, compiled⟩ clear, ?_, fun garbled =>
        (clear garbled).elim⟩
      intro other otherCompiled
      cases compiled.symm.trans otherCompiled
      exact recompiles
  | none =>
      obtain ⟨kind, _, _, _, isKind, _⟩ :=
        StoredRule.compile_eq_ok_iff.mp working
      have malformed : changed.stored.compile =
          .error (.malformed (.unknownLogic changed.logic)) :=
        compile_of_unknownLogic
          ((congrArg RuleKind.ofText? makes.ruleType).trans isKind) known
      refine ⟨iff_of_false ?_ (not_not_intro (garbles.mpr known)), ?_, fun _ =>
        ⟨malformed, ?_⟩⟩
      · rintro ⟨again, compiled⟩
        cases malformed.symm.trans compiled
      · intro again compiled
        cases malformed.symm.trans compiled
      · intro intent stored selection member active selected
        obtain ⟨_, rfl⟩ := Selection.select_intent_eq_ok_iff.mp selected
        refine List.mem_filterMap.mpr ⟨changed.stored, member, ?_⟩
        have isActive : changed.stored.isActive = true := active
        simp only [StoredRule.issue?, isActive, malformed]
        rfl

/-- A rule for lunches, created and committed. -/
def lunchCalls : List Call :=
  [.create {
    name := some "Lunch"
    conditions := .obj [("description_contains", .arr [.str "lunch"])]
    actions := .obj [("set_category", .str "food")] }, .commit]

theorem exists_lunch :
    ∃ row rule, ((start freshStore).performAll lunchCalls).get "rule-1" =
      .ok row ∧
      row.stored.compile = .ok rule := by
  obtain ⟨row, found, compiles⟩ := exists_ok_of_seen (show
    (((start freshStore).performAll lunchCalls).get "rule-1").toOption.map
      (fun row => fault? row.stored.compile) = some none by decide +kernel)
  obtain ⟨rule, working⟩ := eq_ok_of_fault? compiles
  exact ⟨row, rule, found, working⟩

/-- Conditions with an end left open, and another logic. -/
def loosening : Changes where
  conditions :=
    some (.obj [("amount_max", .int 20), ("source", .arr [.str "sms"])])
  logic := some "or"

/-- A logic that is not known. -/
def garbling : Changes where
  logic := some "xor"

theorem compiles_iff_not_garbles_loosening :
    ∃ row rule after changed again,
      ((start freshStore).performAll lunchCalls).get "rule-1" = .ok row ∧
      row.stored.compile = .ok rule ∧
      ((start freshStore).performAll lunchCalls).update "rule-1" loosening =
        .ok after ∧
      after.get "rule-1" = .ok changed ∧ changed.stored.compile = .ok again ∧
      loosening.Recompiles row.transferTo rule again := by
  obtain ⟨row, rule, found, working⟩ := exists_lunch
  obtain ⟨after, updated⟩ := eq_ok_of_fault? (show
    fault? (((start freshStore).performAll lunchCalls).update "rule-1"
      loosening) = none by
      decide +kernel)
  obtain ⟨changed, foundAfter, _, compiles_iff, recompiles, _⟩ :=
    compiles_iff_not_garbles found working updated
  have clear : ¬ loosening.Garbles := by
    rintro ⟨_, ⟨⟩, unknown⟩
    cases unknown
  obtain ⟨again, compiled⟩ := compiles_iff.mpr clear
  exact ⟨row, rule, after, changed, again, found, working, updated, foundAfter,
    compiled, recompiles again compiled⟩

/-- A change of the logic alone is made, and leaves a rule that does not
compile. -/
theorem not_compiles_garbled :
    ∃ row rule after changed,
      ((start freshStore).performAll lunchCalls).get "rule-1" = .ok row ∧
      row.stored.compile = .ok rule ∧
      ((start freshStore).performAll lunchCalls).update "rule-1" garbling =
        .ok after ∧
      after.get "rule-1" = .ok changed ∧
      changed.stored.compile = .error (.malformed (.unknownLogic "xor")) := by
  obtain ⟨row, rule, found, working⟩ := exists_lunch
  obtain ⟨after, updated, changes⟩ := exists_ok_of_seen (show
    (((start freshStore).performAll lunchCalls).update "rule-1"
      garbling).toOption.map
      (fun after => (after.get "rule-1").toOption.map fun changed =>
        fault? changed.stored.compile) =
      some (some (some (.malformed (.unknownLogic "xor")))) by decide +kernel)
  obtain ⟨changed, foundAfter, failed⟩ := exists_ok_of_seen changes
  exact ⟨row, rule, after, changed, found, working, updated, foundAfter,
    eq_error_of_fault? failed⟩

end RuleSession

end LedgerRules
