import LedgerRules.Proofs.Service.Evaluating
import LedgerRules.Proofs.Store.PlainRules

/-!
# Tidy payloads

Requested and changed rules do not keep the payloads that were given but what
these are read as, written without nulls.  Written so, a payload is read and
written again as it stands, and a rule compiles with it as it does with the
given one.
-/

namespace LedgerRules

/-- A value that neither is `null` nor has one in it. -/
inductive Json.NullFree : Json → Prop where
  | bool (value : Bool) : NullFree (.bool value)
  | int (value : Int) : NullFree (.int value)
  | float (value : Double) : NullFree (.float value)
  | str (value : String) : NullFree (.str value)
  | arr {items : List Json} (each : ∀ item ∈ items, NullFree item) :
      NullFree (.arr items)
  | obj {fields : List (String × Json)}
      (each : ∀ field ∈ fields, NullFree field.2) :
      NullFree (.obj fields)

namespace Payload

open Json (NullFree)

/-- A value that is `null` or has none in it. -/
def NullAtMost (value : Json) : Prop :=
  value = .null ∨ value.NullFree

theorem nullFree_withoutNulls {fields : Fields}
    (each : ∀ field ∈ fields, NullAtMost field.2) :
    (Json.obj (withoutNulls fields)).NullFree := by
  refine .obj fun field member => ?_
  obtain ⟨given, notNull⟩ := List.mem_filter.mp member
  refine (each field given).resolve_left fun null => ?_
  rw [null] at notNull
  cases notNull

theorem nullFree_texts (values : List String) :
    (Conditions.texts values).NullFree := by
  refine .arr fun item member => ?_
  obtain ⟨value, _, rfl⟩ := List.mem_map.mp member
  exact .str value

theorem nullAtMost_getD {Value : Type} {write : Value → Json}
    (nullFree : ∀ value, (write value).NullFree) (value? : Option Value) :
    NullAtMost ((value?.map write).getD .null) := by
  cases value? with
  | none => exact .inl rfl
  | some value => exact .inr (nullFree value)

theorem nullAtMost_ofText? (value? : Option String) :
    NullAtMost (.ofText? value?) := by
  cases value? with
  | none => exact .inl rfl
  | some value => exact .inr (.str value)

/-- An object that is accepted as a payload and written again as it stands,
without a null in it. -/
structure Tidy {Value : Type} (check : Check Value) (dump : Value → Fields)
    (fields : Fields) : Prop where
  rewritten : ∃ value, check (.obj fields) = .accepted value ∧
    withoutNulls (dump value) = fields
  nullFree : (Json.obj fields).NullFree

namespace Conditions

/-- Conditions as they are written: tidy, and without a range that is open on a
side. -/
structure Settled (origin : Origin) (fields : Fields) : Prop where
  tidy : Tidy (check origin) dump fields
  closed : "amount_min" ∉ fields.map Prod.fst ∧
    "amount_max" ∉ fields.map Prod.fst

theorem nullFree_dump (conditions : Conditions) :
    (Json.obj (withoutNulls conditions.dump)).NullFree := by
  apply nullFree_withoutNulls
  have number : ∀ value : Double, (Json.float value).NullFree := .float
  have range : ∀ range : Double × Double,
      (Json.arr [.float range.1, .float range.2]).NullFree := by
    intro range
    exact .arr (by simp [number])
  simp only [dump, List.forall_mem_cons]
  exact ⟨nullAtMost_getD nullFree_texts _, nullAtMost_getD nullFree_texts _,
    nullAtMost_getD (fun pattern => .str (Pattern.text pattern)) _,
    nullAtMost_getD range _,
    nullAtMost_getD number _, nullAtMost_getD nullFree_texts _,
      nullAtMost_getD .str _,
    nullAtMost_getD .str _, nullAtMost_getD .str _, nullAtMost_getD .str _,
    List.forall_mem_nil _⟩

theorem Lawful.settled {conditions : Conditions} (lawful : conditions.Lawful)
    (origin : Origin) :
    Settled origin (withoutNulls conditions.dump) where
  tidy := ⟨⟨conditions, check_dump lawful origin, rfl⟩,
    conditions.nullFree_dump⟩
  closed :=
    ⟨fun member => absurd (conditions.keys_dump_subset member) (by decide),
      fun member => absurd (conditions.keys_dump_subset member) (by decide)⟩

end Conditions

namespace Actions

theorem nullFree_dump (actions : Actions) :
    (Json.obj (withoutNulls actions.dump)).NullFree := by
  apply nullFree_withoutNulls
  simp only [dump, List.forall_mem_cons]
  exact ⟨nullAtMost_ofText? _, nullAtMost_ofText? _, nullAtMost_ofText? _,
    nullAtMost_ofText? _, nullAtMost_getD .bool _, nullAtMost_ofText? _,
    List.forall_mem_nil _⟩

theorem Lawful.tidy {actions : Actions} (lawful : actions.Lawful)
    (origin : Origin) :
    Tidy (check origin) dump (withoutNulls actions.dump) :=
  ⟨⟨actions, check_dump lawful origin, rfl⟩, actions.nullFree_dump⟩

end Actions

end Payload

open Payload (Conditions Actions Origin Fields withoutNulls)

namespace StoredRule

theorem compile_congr {stored : StoredRule} {conditions actions : Json}
    (sameConditions : Conditions.check .storage (payload conditions) =
      Conditions.check .storage (payload stored.conditions))
    (sameActions : Actions.check .storage (payload actions) =
      Actions.check .storage (payload stored.actions)) :
    { stored with conditions, actions }.compile = stored.compile := by
  unfold compile
  rw [sameConditions, sameActions]

end StoredRule

section Alike

variable {origin : Origin} {given : Json}

theorem check_accepted_conditions {conditions : Conditions}
    (accepted : Conditions.check origin given = .accepted conditions) :
    Conditions.check .storage (StoredRule.payload given) =
      Conditions.check .storage
        (StoredRule.payload (.obj (withoutNulls conditions.dump))) := by
  obtain ⟨fields, rfl, checked⟩ := Payload.model_eq_accepted_iff.mp accepted
  rw [StoredRule.payload_obj, StoredRule.payload_obj,
    Conditions.check_dump (Conditions.lawful_of_check accepted)]
  exact checked

theorem check_accepted_actions {actions : Actions}
    (accepted : Actions.check origin given = .accepted actions) :
    Actions.check .storage (StoredRule.payload given) =
      Actions.check .storage
        (StoredRule.payload (.obj (withoutNulls actions.dump))) := by
  obtain ⟨fields, rfl, checked⟩ := Payload.model_eq_accepted_iff.mp accepted
  rw [StoredRule.payload_obj, StoredRule.payload_obj,
    Actions.check_dump (Actions.lawful_of_check accepted)]
  exact checked

end Alike

/-- A rule keeps the payloads that it was given as they are written, and
compiles as it would with those. -/
structure RuleRow.KeepsWritten (row : RuleRow)
    (conditions? actions? : Option Json) : Prop where
  conditions : ∀ given ∈ conditions?, ∃ fields, row.conditions = .obj fields ∧
    Conditions.Settled .storage fields
  actions : ∀ given ∈ actions?, ∃ fields, row.actions = .obj fields ∧
    Payload.Tidy (Actions.check .storage) Actions.dump fields
  compile : row.stored.compile =
    { row.stored with
      conditions := conditions?.getD row.conditions
      actions := actions?.getD row.actions }.compile

namespace Service

open Payload (Checked)

/-- The payload that a request gives under a name; none stands for an empty
one. -/
def givenPayload (name : String) (fields : Fields) : Json :=
  (Json.lookUp name fields).getD (.obj [])

theorem check_givenPayload {Value : Type} {check : Payload.Check Value}
    {default value : Value} {fields : Fields} {name : String}
    (empty : check (.obj []) = .accepted default)
    (accepted : Payload.defaulted fields name default check = .accepted value) :
    check (givenPayload name fields) = .accepted value := by
  unfold Payload.defaulted at accepted
  unfold givenPayload
  split at accepted
  case h_1 given found =>
    rw [found]
    exact Checked.under_eq_accepted_iff.mp accepted
  case h_2 absent =>
    rw [absent, ← accepted]
    exact empty

private theorem keepsWritten_of_fills {fields : Fields}
    {asked : Payload.RuleRequest} {row : RuleRow}
    (reads : Payload.RuleRequest.Reads .request fields asked)
    (fills : Store.Fills (RuleSession.withDetectedAccount (newRule asked))
      row) :
    row.KeepsWritten (some (givenPayload "conditions" fields))
      (some (givenPayload "actions" fields)) := by
  have conditions : row.conditions =
      .obj (withoutNulls asked.conditions.dump) := fills.conditions
  have actions : row.actions = .obj (withoutNulls asked.actions.dump) :=
    fills.actions
  refine ⟨?_, ?_, ?_⟩
  · rintro _ ⟨⟩
    exact ⟨_, conditions, reads.lawful.conditions.settled _⟩
  · rintro _ ⟨⟩
    exact ⟨_, actions, reads.lawful.actions.tidy _⟩
  · refine (StoredRule.compile_congr ?_ ?_).symm
    · rw [Option.getD_some, check_accepted_conditions
        (check_givenPayload rfl reads.conditions)]
      exact congrArg _ (congrArg _ conditions.symm)
    · rw [Option.getD_some, check_accepted_actions
        (check_givenPayload rfl reads.actions)]
      exact congrArg _ (congrArg _ actions.symm)

end Service

namespace RuleSession

/-- A payload that is given is read like the written one that a rule keeps, and
one that is not given is not changed. -/
theorem check_getD_congr {Value : Type} {dump : Value → Fields}
    {check : Payload.Check Value} {given? written? : Option Json}
    (alike : ∀ {given : Json} {value : Value}, check given = .accepted value →
      check (StoredRule.payload given) =
      check (StoredRule.payload (.obj (withoutNulls (dump value)))))
    (written : Option.Rel (fun given written => ∃ value,
      check given = .accepted value ∧
      written = .obj (withoutNulls (dump value))) given? written?)
    (old : Json) :
    check (StoredRule.payload (given?.getD (written?.getD old))) =
      check (StoredRule.payload (written?.getD old)) := by
  cases written with
  | none => rfl
  | some written =>
      obtain ⟨_, accepted, rfl⟩ := written
      exact alike accepted

private theorem keepsWritten_of_revise {changes : Changes}
    {row revised : RuleRow} (success : changes.revise row = .ok revised) :
    revised.KeepsWritten changes.conditions changes.actions := by
  obtain ⟨conditions?, tidiedConditions, success⟩ := bind_eq_ok_iff.mp success
  obtain ⟨actions?, tidiedActions, success⟩ := bind_eq_ok_iff.mp success
  cases success
  have conditions := written_of_mapM_tidied tidiedConditions
  have actions := written_of_mapM_tidied tidiedActions
  refine ⟨?_, ?_, ?_⟩
  · intro given asked
    rw [asked] at conditions
    obtain ⟨value, accepted, rfl⟩ := conditions
    exact ⟨_, rfl, (Conditions.lawful_of_check accepted).settled _⟩
  · intro given asked
    rw [asked] at actions
    obtain ⟨value, accepted, rfl⟩ := actions
    exact ⟨_, rfl, (Actions.lawful_of_check accepted).tidy _⟩
  · refine (StoredRule.compile_congr ?_ ?_).symm
    · exact check_getD_congr check_accepted_conditions conditions _
    · exact check_getD_congr check_accepted_actions actions _

end RuleSession

namespace Service

/-- What is written of an accepted payload is tidy, and a rule compiles with it
as with what was given.  So does every rule that a request creates or that a
change revises. -/
theorem written_compiles_as_given :
    (∀ (origin : Origin) (fields : Fields) (conditions : Conditions),
      Conditions.check origin (.obj fields) = .accepted conditions →
        (∀ later, Conditions.Settled later (withoutNulls conditions.dump)) ∧
        ∀ stored : StoredRule,
          { stored with
            conditions := .obj (withoutNulls conditions.dump) }.compile =
            { stored with conditions := .obj fields }.compile) ∧
      (∀ (origin : Origin) (fields : Fields) (actions : Actions),
        Actions.check origin (.obj fields) = .accepted actions →
          (∀ later, Payload.Tidy (Actions.check later) Actions.dump
            (withoutNulls actions.dump)) ∧
          ∀ stored : StoredRule,
            { stored with
              actions := .obj (withoutNulls actions.dump) }.compile =
              { stored with actions := .obj fields }.compile) ∧
      (∀ (request : Request) (store : Store), request.IsCreation →
        (respond request store).Succeeds →
          ∃ fields row rule, readBody request.body = .value (.obj fields) ∧
            (respond request store).store.rules = store.rules ++ [row] ∧
            row.stored.compile = .ok rule ∧
            row.KeepsWritten (some (givenPayload "conditions" fields))
              (some (givenPayload "actions" fields))) ∧
      ∀ (session after : RuleSession) (id : String)
        (changes : RuleSession.Changes),
        session.update id changes = .ok after →
          ∃ row revised, session.get id = .ok row ∧
            changes.revise row = .ok revised ∧
            after.get id = .ok revised ∧
            revised.KeepsWritten changes.conditions changes.actions := by
  refine ⟨?_, ?_, ?_, ?_⟩
  · intro origin fields conditions accepted
    refine ⟨(Conditions.lawful_of_check accepted).settled, fun stored => ?_⟩
    exact (StoredRule.compile_congr (check_accepted_conditions accepted)
      rfl).symm
  · intro origin fields actions accepted
    refine ⟨(Actions.lawful_of_check accepted).tidy, fun stored => ?_⟩
    exact (StoredRule.compile_congr rfl (check_accepted_actions accepted)).symm
  · intro request store creation success
    obtain ⟨asked, row, ⟨body, read, accepted⟩, fills, stored⟩ :=
      inserted_of_succeeds creation success
    obtain ⟨fields, rfl, checked⟩ := Payload.checkBody_model_eq_accepted_iff.mp
      accepted
    have reads := Payload.RuleRequest.checkFields_eq_accepted_iff.mp checked
    obtain ⟨rule, compiled, _⟩ := compile_of_fills reads.lawful fills
    exact ⟨fields, row, rule, read, stored, compiled,
      keepsWritten_of_fills reads fills⟩
  · intro session after id changes success
    rw [RuleSession.update_eq] at success
    obtain ⟨row, found, success⟩ := bind_eq_ok_iff.mp success
    obtain ⟨revised, revising, success⟩ := bind_eq_ok_iff.mp success
    cases success
    exact ⟨row, revised, found, revising,
      RuleSession.get_edit found (RuleSession.id_of_revise revising),
      RuleSession.keepsWritten_of_revise revising⟩

/-- Conditions with a range that is open on a side and given as text, an empty
list and a `null`. -/
def looseConditions : Fields :=
  [("amount_min", .str "7.5"), ("type", .null),
    ("description_contains", .arr [])]

/-- What they are read as. -/
def closedConditions : Conditions where
  descriptionContains := some []
  amountBetween :=
    some (.finite false 8444249301319680 (-50), .finite false 9007199254740991
    0)

/-- Actions with a truth value that is given as a word, an empty note and a
`null`. -/
def looseActions : Fields :=
  [("auto_reconcile", .str "yes"), ("add_note", .str ""), ("set_type", .null)]

/-- The changes that give these to a rule. -/
def looseChanges : RuleSession.Changes where
  conditions := some (.obj looseConditions)
  actions := some (.obj looseActions)

theorem written_compiles_as_given_loose :
    Conditions.check .request (.obj looseConditions) =
      .accepted closedConditions ∧
      Conditions.Settled .storage (withoutNulls closedConditions.dump) ∧
      (∃ actions, Actions.check .request (.obj looseActions) =
        .accepted actions ∧
        Payload.Tidy (Actions.check .storage) Actions.dump
          (withoutNulls actions.dump)) ∧
      lunchRule.IsCreation ∧ (respond lunchRule wallets).Succeeds ∧
      (∃ row rule, (respond lunchRule wallets).store.rules = wallets.rules ++
        [row] ∧
        row.stored.compile = .ok rule) ∧
      ∃ after revised,
        (RuleSession.start (respond lunchRule wallets).store).update "rule-1"
          looseChanges =
          .ok after ∧
        after.get "rule-1" = .ok revised ∧
        revised.KeepsWritten looseChanges.conditions looseChanges.actions := by
  obtain ⟨conditions, actions, created, updated⟩ := written_compiles_as_given
  have closed : Conditions.check .request (.obj looseConditions) =
      .accepted closedConditions := by
    decide +kernel
  have reconciling : Actions.check .request (.obj looseActions) =
      .accepted { autoReconcile := some true, addNote := some "" } := by
    decide
  have creation : lunchRule.IsCreation := ⟨by decide +kernel, rfl⟩
  have success : (respond lunchRule wallets).Succeeds := by decide +kernel
  have answered :
      fault? ((RuleSession.start (respond lunchRule wallets).store).update
      "rule-1"
      looseChanges) = none := by
    decide +kernel
  obtain ⟨after, changed⟩ := eq_ok_of_fault? answered
  obtain ⟨_, row, rule, _, stored, compiled, _⟩ :=
    created lunchRule wallets creation success
  obtain ⟨_, revised, _, _, found, keeps⟩ :=
    updated _ after "rule-1" looseChanges changed
  exact ⟨closed, (conditions .request looseConditions closedConditions closed).1
    .storage, ⟨_, reconciling, (actions .request looseActions _ reconciling).1
      .storage⟩, creation, success,
    ⟨row, rule, stored, compiled⟩, after, revised, changed, found, keeps⟩

end Service

end LedgerRules
