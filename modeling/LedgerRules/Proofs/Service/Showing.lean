import LedgerRules.Proofs.Number.Reading
import LedgerRules.Proofs.Payload.Accepting
import LedgerRules.Proofs.Resolution.Folding
import LedgerRules.Proofs.Service.Rules

/-!
# Rows that can be shown

A row of a rule can be shown when its conditions and its actions are objects
that are not nested too deeply, which is so for everything that requests and
drafts store.  A row of a transaction can be shown when its amount is finite and
its applied rules are not nested too deeply.  Rules credit shallow actions, but
a booking may carry applied rules of any depth.
-/

namespace LedgerRules

namespace Json

private theorem depthOfItems_le_iff {items : List Json} {bound : Nat} :
    depthOfItems items ≤ bound ↔ ∀ item ∈ items, item.depth ≤ bound := by
  induction items with
  | nil => simp [depthOfItems]
  | cons item rest induction => simp [depthOfItems, induction]

private theorem depthOfFields_le_iff {fields : List (String × Json)}
    {bound : Nat} :
    depthOfFields fields ≤ bound ↔ ∀ field ∈ fields, field.2.depth ≤ bound := by
  induction fields with
  | nil => simp [depthOfFields]
  | cons field rest induction => simp [depthOfFields, induction]

theorem depth_texts_le (values : List String) :
    (arr (values.map str)).depth ≤ 2 := by
  have items : depthOfItems (values.map str) ≤ 1 := by
    rw [depthOfItems_le_iff]
    intro item member
    obtain ⟨value, _, rfl⟩ := List.mem_map.mp member
    exact Nat.le_refl 1
  exact Nat.succ_le_succ items

private theorem depth_ofText? (value? : Option String) :
    (ofText? value?).depth = 1 := by
  cases value? <;> rfl

end Json

namespace Service

/-- An object that a body can show. -/
def IsShown (value : Json) : Prop :=
  ∃ fields, value = .obj fields ∧ Json.depthOfFields fields ≤ shownDepth

theorem shownObject_eq_accepted_iff {value : Json} {fields : Payload.Fields} :
    shownObject value = .accepted fields ↔
      value = .obj fields ∧ Json.depthOfFields fields ≤ shownDepth := by
  cases value with
  | obj given =>
      simp only [shownObject, Payload.anyObject, Payload.Checked.andThen]
      split
      case isTrue shallow =>
        constructor
        · rintro ⟨⟩
          exact ⟨rfl, shallow⟩
        · rintro ⟨⟨⟩, _⟩
          rfl
      case isFalse deep =>
        refine iff_of_false (by simp [Payload.Checked.refuse]) ?_
        rintro ⟨⟨⟩, shallow⟩
        exact deep shallow
  | _ => simp [shownObject, Payload.anyObject, Payload.Checked.andThen,
      Payload.Checked.refuse]

theorem isShown_of_depth_le {fields : Payload.Fields}
    (shallow : ∀ field ∈ fields, field.2.depth ≤ 2) :
    IsShown (.obj fields) := by
  have below : 2 ≤ shownDepth := by decide
  exact ⟨fields, rfl, (Json.depthOfFields_le_iff.mpr shallow).trans below⟩

theorem required_of_lookUp {Value : Type} {fields : Payload.Fields}
    {name : String} {given : Json}
    (found : Json.lookUp name fields = some given)
    (check : Payload.Check Value) :
    Payload.required fields name check = (check given).under (.field name) := by
  rw [Payload.required, found]

theorem required_of_isShown {fields : Payload.Fields} {name : String}
    {given : Json} (found : Json.lookUp name fields = some given)
    (shown : IsShown given) :
    ∃ value, Payload.required fields name shownObject = .accepted value := by
  obtain ⟨value, same, shallow⟩ := shown
  refine ⟨value, ?_⟩
  rw [required_of_lookUp found, Payload.Checked.under_eq_accepted_iff]
  exact shownObject_eq_accepted_iff.mpr ⟨same, shallow⟩

theorem showRule_eq_ok {row : RuleRow} (conditions : IsShown row.conditions)
    (actions : IsShown row.actions) :
    showRule row = .ok (shownValue (.obj row.shownFields)) := by
  have conditionsField : Json.lookUp "conditions" row.shownFields =
      some row.conditions := by
    simp [RuleRow.shownFields, Json.lookUp]
  have actionsField : Json.lookUp "actions" row.shownFields =
      some row.actions := by
    simp [RuleRow.shownFields, Json.lookUp]
  obtain ⟨_, conditionsShown⟩ := required_of_isShown conditionsField conditions
  obtain ⟨_, actionsShown⟩ := required_of_isShown actionsField actions
  unfold showRule
  rw [conditionsShown, actionsShown]
  rfl

theorem showRules_eq_ok {rows : List RuleRow}
    (shown : ∀ row ∈ rows, IsShown row.conditions ∧ IsShown row.actions) :
    ∃ answer, rows.mapM showRule = .ok answer := by
  induction rows with
  | nil => exact ⟨[], rfl⟩
  | cons row rest induction =>
      obtain ⟨conditions, actions⟩ := shown row List.mem_cons_self
      obtain ⟨answer, showing⟩ := induction fun other member =>
        shown other (List.mem_cons_of_mem row member)
      refine ⟨shownValue (.obj row.shownFields) :: answer, ?_⟩
      rw [List.mapM_cons, showRule_eq_ok conditions actions, showing]
      rfl

private theorem isShown_conditions (conditions : Payload.Conditions) :
    IsShown (.obj (Payload.withoutNulls conditions.dump)) := by
  have optional :
      ∀ {Value : Type} (write : Value → Json) (value? : Option Value),
      (∀ value, (write value).depth ≤ 2) →
      ((value?.map write).getD .null).depth ≤ 2 := by
    intro Value write value? shallow
    cases value? with
    | none => exact Nat.le_succ 1
    | some value => exact shallow value
  have text : ∀ value : String, (Json.str value).depth ≤ 2 := fun _ =>
    Nat.le_succ 1
  apply isShown_of_depth_le
  intro field member
  have stated := (List.mem_filter.mp member).1
  simp only [Payload.Conditions.dump, List.mem_cons, List.not_mem_nil, or_false]
    at stated
  rcases stated with rfl | rfl | rfl | rfl | rfl | rfl | rfl | rfl | rfl | rfl
  · exact optional _ _ Json.depth_texts_le
  · exact optional _ _ Json.depth_texts_le
  · exact optional _ _ fun pattern => text pattern.text
  · exact optional _ _ fun _ => Nat.le_refl 2
  · exact optional _ _ fun _ => Nat.le_succ 1
  · exact optional _ _ Json.depth_texts_le
  all_goals exact optional _ _ text

private theorem isShown_actions (actions : Payload.Actions) :
    IsShown (.obj (Payload.withoutNulls actions.dump)) := by
  have text : ∀ value? : Option String, (Json.ofText? value?).depth ≤ 2 := by
    intro value?
    rw [Json.depth_ofText?]
    exact Nat.le_succ 1
  apply isShown_of_depth_le
  intro field member
  have stated := (List.mem_filter.mp member).1
  simp only [Payload.Actions.dump, List.mem_cons, List.not_mem_nil, or_false]
    at stated
  rcases stated with rfl | rfl | rfl | rfl | rfl | rfl
  case inr.inr.inr.inr.inl =>
    cases actions.autoReconcile <;> exact Nat.le_succ 1
  all_goals exact text _

theorem isShown_newRule (request : Payload.RuleRequest) :
    IsShown (newRule request).conditions ∧ IsShown (newRule request).actions :=
  ⟨isShown_conditions request.conditions, isShown_actions request.actions⟩

theorem isShown_draft (priority : Int) (account : Account) :
    IsShown (Coverage.draft priority account).conditions ∧
      IsShown (Coverage.draft priority account).actions := by
  constructor
  · apply isShown_of_depth_le
    intro field member
    rw [List.mem_singleton.mp member]
    exact Json.depth_texts_le _
  · apply isShown_of_depth_le
    intro field member
    rw [List.mem_singleton.mp member]
    exact Nat.le_succ 1

end Service

/-- An applied rule whose actions are not nested too deeply to be shown. -/
def AppliedRule.IsShallow (applied : AppliedRule) : Prop :=
  Json.depthOfFields applied.actions < Service.shownDepth

instance (applied : AppliedRule) : Decidable applied.IsShallow :=
  inferInstanceAs (Decidable (_ < _))

/-- A rule that is credited with actions is shallow. -/
theorem AppliedRule.isShallow_of_credits {applied : AppliedRule}
    {actions : List Action}
    (credits : applied.actions = actions.map fun action =>
      (action.key, action.credit)) :
    applied.IsShallow := by
  have below : 1 < Service.shownDepth := by decide
  have shallow : Json.depthOfFields applied.actions ≤ 1 := by
    rw [credits, Json.depthOfFields_le_iff]
    intro field member
    obtain ⟨action, _, rfl⟩ := List.mem_map.mp member
    cases action <;> exact Nat.le_refl 1
  exact shallow.trans_lt below

namespace Service

/-- A row keeps applied rules: as a list, or as nothing when there are none. -/
def Keeps (row : TransactionRow) (applied : List AppliedRule) : Prop :=
  row.appliedRules =
    if applied.isEmpty then .null else .arr (applied.map AppliedRule.toJson)

theorem shownObject_toJson_iff {applied : AppliedRule} :
    (∃ fields, shownObject applied.toJson = .accepted fields) ↔
      applied.IsShallow := by
  have depth : ∀ fields : Payload.Fields,
      Json.depthOfFields
        [("rule_id", .str applied.ruleId), ("rule_name", .str applied.ruleName),
          ("actions", .obj fields)] = Json.depthOfFields fields + 1 := by
    intro fields
    simp [Json.depthOfFields, Json.depth]
  simp only [shownObject_eq_accepted_iff, AppliedRule.toJson, Json.obj.injEq]
  constructor
  · rintro ⟨_, rfl, shallow⟩
    rw [depth] at shallow
    exact shallow
  · intro shallow
    refine ⟨_, rfl, ?_⟩
    rw [depth]
    exact shallow

private theorem optional_appliedRules_iff {row : TransactionRow}
    {applied : List AppliedRule} (kept : Keeps row applied) :
    (∃ shown, Payload.optional row.shownFields "applied_rules"
        (Payload.list shownObject) = .accepted shown) ↔
      ∀ entry ∈ applied, entry.IsShallow := by
  have found : Json.lookUp "applied_rules" row.shownFields =
      some row.appliedRules := by
    simp [TransactionRow.shownFields, Json.lookUp]
  rw [Payload.optional, Payload.defaulted, found, kept]
  cases applied with
  | nil =>
      constructor
      · intro _
        exact List.forall_mem_nil _
      · intro _
        exact ⟨none, rfl⟩
  | cons first rest =>
      simp only [List.isEmpty_cons, Bool.false_eq_true, if_false,
        Payload.nullable, Payload.Checked.under_eq_accepted_iff,
        Payload.Checked.map_eq_accepted_iff, Payload.list,
        Payload.checkItems_eq_accepted_iff, List.forall₂_map_left_iff]
      constructor
      · rintro ⟨_, values, shown, rfl⟩ entry member
        obtain ⟨value, _, accepted⟩ :=
          exists_mem_of_forall₂ shown.flip entry member
        exact shownObject_toJson_iff.mp ⟨value, accepted⟩
      · intro shallow
        obtain ⟨values, shown⟩ := exists_forall₂ fun entry member =>
          shownObject_toJson_iff.mpr (shallow entry member)
        exact ⟨some values, values, shown, rfl⟩

theorem lookUp_amount (row : TransactionRow) :
    Json.lookUp "amount" row.shownFields =
      some (.str (readBack row.amount).text) := by
  simp [TransactionRow.shownFields, Json.lookUp]

theorem decimal_readBack_eq_refuse {amount : Double}
    (infinite : amount.isFinite = false) :
    Payload.decimal (.str (readBack amount).text) = .refuse .infinite := by
  cases amount with
  | finite negative significand exponent => cases infinite
  | infinite negative => cases negative <;> decide +kernel
  | nan => decide +kernel

theorem required_amount_iff {row : TransactionRow}
    (bounded : row.amount.IsBounded) :
    (∃ amount, Payload.required row.shownFields "amount" Payload.decimal =
      .accepted amount) ↔
      row.amount.isFinite = true := by
  rw [required_of_lookUp (lookUp_amount row)]
  simp only [Payload.Checked.under_eq_accepted_iff]
  constructor
  · rintro ⟨amount, accepted⟩
    rw [← Bool.not_eq_false]
    intro infinite
    rw [decimal_readBack_eq_refuse infinite] at accepted
    cases accepted
  · intro finite
    obtain ⟨reads, isFinite⟩ := read?_readBack bounded finite
    refine ⟨readBack row.amount, ?_⟩
    simp only [Payload.decimal, reads, Payload.finiteDecimal, isFinite, if_true]

/-- A row can be shown exactly when its amount is finite and the applied rules
that it keeps are shallow. -/
theorem showTransaction_isOk_iff {row : TransactionRow}
    {applied : List AppliedRule} (bounded : row.amount.IsBounded)
    (kept : Keeps row applied) :
    (∃ shown, showTransaction row = .ok shown) ↔
      row.amount.isFinite = true ∧ ∀ entry ∈ applied, entry.IsShallow := by
  rw [← required_amount_iff bounded, ← optional_appliedRules_iff kept]
  unfold showTransaction
  constructor
  · rintro ⟨shown, success⟩
    dsimp only at success
    split at success
    case h_1 checked =>
      obtain ⟨_, rules, mapped, rulesShown, _⟩ :=
        Payload.Checked.seq_eq_accepted_iff.mp checked
      obtain ⟨amount, amountShown, _⟩ :=
        Payload.Checked.map_eq_accepted_iff.mp mapped
      exact ⟨⟨amount, amountShown⟩, rules, rulesShown⟩
    case h_2 => cases success
    case h_3 => cases success
  · rintro ⟨⟨amount, amountShown⟩, rules, rulesShown⟩
    rw [amountShown, rulesShown]
    exact ⟨_, rfl⟩

end Service

end LedgerRules
