import LedgerRules.Proofs.Outcomes
import LedgerRules.Rule.Selection

/-!
# Compiled rules

A stored rule compiles when its kind and its logic are known and its payloads
are accepted.  The rule that it compiles to has at most one action of each kind.
-/

namespace LedgerRules

namespace Action

@[simp] def type? : Action → Option String
  | setType type => some type
  | _ => none

@[simp] def category? : Action → Option String
  | setCategory categoryId => some categoryId
  | _ => none

@[simp] def account? : Action → Option String
  | setAccount accountId => some accountId
  | _ => none

/-- The account that an action links to. -/
@[simp] def destination? : Action → Option String
  | linkTo accountId => some accountId
  | _ => none

@[simp] def note? : Action → Option String
  | addNote note => some note
  | _ => none

end Action

namespace Rule

def type? (rule : Rule) : Option String :=
  rule.actions.findSome? Action.type?

def category? (rule : Rule) : Option String :=
  rule.actions.findSome? Action.category?

def account? (rule : Rule) : Option String :=
  rule.actions.findSome? Action.account?

/-- The account that a rule links to. -/
def destination? (rule : Rule) : Option String :=
  rule.actions.findSome? Action.destination?

def note? (rule : Rule) : Option String :=
  rule.actions.findSome? Action.note?

def reconciles (rule : Rule) : Bool :=
  rule.actions.contains .reconcile

/-- A rule with at most one action of each kind. -/
def OneOfEachKind (rule : Rule) : Prop :=
  (rule.actions.map Action.key).Nodup

end Rule

namespace Payload

private theorem keys_sublist (make : String → Action) {name : String}
    (named : ∀ value, (make value).key = name) (value? : Option String) :
    ((value?.map make).toList.map Action.key).Sublist [name] := by
  cases value? with
  | none => exact List.nil_sublist _
  | some value => simp [named]

theorem Actions.keys_compile_sublist (payload : Actions)
    (transferTo : Option String) :
    ((payload.compile transferTo).map Action.key).Sublist names := by
  have type := keys_sublist .setType (fun _ => rfl) (nonEmpty? payload.setType)
  have category := keys_sublist .setCategory (fun _ => rfl)
    (nonEmpty? payload.setCategory)
  have account := keys_sublist .setAccount (fun _ => rfl)
    (nonEmpty? payload.setAccount)
  have destination := keys_sublist .linkTo (fun _ => rfl)
    ((nonEmpty? payload.linkToAccount).or (nonEmpty? transferTo))
  have reconcile : ((if payload.autoReconcile = some true then
    [Action.reconcile]
      else []).map Action.key).Sublist ["auto_reconcile"] := by
    split
    · exact List.Sublist.refl _
    · exact List.nil_sublist _
  have note := keys_sublist .addNote (fun _ => rfl)
    (nonEmpty? (payload.addNote.map trimBlank))
  have inOrder := type.append (category.append (account.append
    (destination.append (reconcile.append note))))
  simp only [compile, List.flatten_cons, List.flatten_nil, List.append_nil,
    List.map_append]
  exact inOrder

/-- The actions that a payload makes in a rule that may have a destination of
its own. -/
inductive Actions.Makes (payload : Actions) (transferTo : Option String) :
    Action → Prop where
  | setType {type : String} (given : nonEmpty? payload.setType = some type) :
      Makes payload transferTo (.setType type)
  | setCategory {categoryId : String}
      (given : nonEmpty? payload.setCategory = some categoryId) :
      Makes payload transferTo (.setCategory categoryId)
  | setAccount {accountId : String}
      (given : nonEmpty? payload.setAccount = some accountId) :
      Makes payload transferTo (.setAccount accountId)
  | linkTo {accountId : String}
      (given : (nonEmpty? payload.linkToAccount).or (nonEmpty? transferTo) =
        some accountId) :
      Makes payload transferTo (.linkTo accountId)
  | reconcile (given : payload.autoReconcile = some true) :
      Makes payload transferTo .reconcile
  | addNote {note : String} (given : nonEmpty? (payload.addNote.map trimBlank) =
      some note) :
      Makes payload transferTo (.addNote note)

theorem Actions.makes_of_mem_compile {payload : Actions}
    {transferTo : Option String} {action : Action}
    (member : action ∈ payload.compile transferTo) :
    payload.Makes transferTo action := by
  simp only [compile, List.flatten_cons, List.flatten_nil, List.append_nil,
    List.mem_append, Option.mem_toList, Option.map_eq_some_iff,
    List.mem_ite_nil_right, List.mem_singleton]
    at member
  rcases member with ⟨_, given, rfl⟩ | ⟨_, given, rfl⟩ | ⟨_, given, rfl⟩ | ⟨_,
    given, rfl⟩ |
    ⟨given, rfl⟩ | ⟨_, given, rfl⟩
  · exact .setType given
  · exact .setCategory given
  · exact .setAccount given
  · exact .linkTo given
  · exact .reconcile given
  · exact .addNote given

/-- The conditions that a payload makes, one for each field that it gives. -/
inductive Conditions.Makes (payload : Conditions) : Condition → Prop where
  | rawTextContains {terms : List String}
      (given : payload.rawTextContains = some terms) :
      Makes payload (.rawTextContains terms)
  | descriptionContains {terms : List String}
      (given : payload.descriptionContains = some terms) :
      Makes payload (.descriptionContains terms)
  | descriptionMatches {pattern : Pattern}
      (given : payload.descriptionPattern = some pattern) :
      Makes payload (.descriptionMatches pattern)
  | amountBetween {range : Double × Double}
      (given : payload.amountBetween = some range) :
      Makes payload (.amountBetween (.ofDouble range.1) (.ofDouble range.2))
  | amountEquals {value : Double} (given : payload.amountEquals = some value) :
      Makes payload (.amountEquals (.ofDouble value))
  | sourceIn {sources : List String} (given : payload.source = some sources) :
      Makes payload (.sourceIn (distinctSorted sources))
  | typeIs {type : String} (given : payload.type = some type) :
      Makes payload (.typeIs type)
  | fromAccount {accountId : String}
      (given : payload.fromAccount = some accountId) :
      Makes payload (.fromAccount accountId)
  | toAccount {accountId : String}
      (given : payload.toAccount = some accountId) :
      Makes payload (.toAccount accountId)
  | categoryIs {categoryId : String}
      (given : payload.category = some categoryId) :
      Makes payload (.categoryIs categoryId)

theorem Conditions.mem_compile_iff {payload : Conditions}
    {condition : Condition} :
    condition ∈ payload.compile ↔ payload.Makes condition := by
  constructor
  · intro member
    simp only [compile, List.flatten_cons, List.flatten_nil, List.append_nil,
      List.mem_append, Option.mem_toList, Option.map_eq_some_iff] at member
    rcases member with ⟨_, given, rfl⟩ | ⟨_, given, rfl⟩ | ⟨_, given, rfl⟩ | ⟨_,
      given, rfl⟩ |
      ⟨_, given, rfl⟩ | ⟨_, given, rfl⟩ | ⟨_, given, rfl⟩ | ⟨_, given,
        rfl⟩ | ⟨_, given, rfl⟩ |
      ⟨_, given, rfl⟩
    · exact .rawTextContains given
    · exact .descriptionContains given
    · exact .descriptionMatches given
    · exact .amountBetween given
    · exact .amountEquals given
    · exact .sourceIn given
    · exact .typeIs given
    · exact .fromAccount given
    · exact .toAccount given
    · exact .categoryIs given
  · intro makes
    cases makes with
    | _ given => simp [compile, given]

end Payload

namespace StoredRule

theorem payload_obj (fields : Payload.Fields) :
    payload (.obj fields) = .obj fields := by
  cases fields <;> rfl

theorem compiled_eq_ok_iff {Value : Type}
    {malformation : List Payload.Problem → Malformation}
    {checked : Payload.Checked Value} {value : Value} :
    compiled malformation checked = .ok value ↔ checked = .accepted value := by
  cases checked <;> simp [compiled]

/-- What a stored rule compiles to: its kind and its logic have names, and its
conditions and actions are those of accepted payloads. -/
theorem compile_eq_ok_iff {stored : StoredRule} {rule : Rule} :
    stored.compile = .ok rule ↔
      ∃ kind logic conditions actions,
        RuleKind.ofText? stored.ruleType = some kind ∧
        Logic.ofText? stored.logic = some logic ∧
        Payload.Conditions.check .storage (payload stored.conditions) =
          .accepted conditions ∧
        Payload.Actions.check .storage (payload stored.actions) =
          .accepted actions ∧
        rule = {
          id := stored.id
          name := stored.name
          priority := stored.priority
          kind, logic
          conditions := conditions.compile
          actions := actions.compile stored.transferTo
          createdAt := stored.createdAt } := by
  constructor
  · intro success
    unfold compile at success
    split at success
    · rename_i kind kindFound
      split at success
      · rename_i logic logicFound
        obtain ⟨conditions, conditionsAccepted, success⟩ :=
          bind_eq_ok_iff.mp success
        obtain ⟨actions, actionsAccepted, success⟩ := bind_eq_ok_iff.mp success
        cases success
        exact ⟨kind, logic, conditions, actions, kindFound, logicFound,
          compiled_eq_ok_iff.mp conditionsAccepted,
          compiled_eq_ok_iff.mp actionsAccepted, rfl⟩
      · cases success
    · cases success
  · rintro ⟨kind, logic, conditions, actions, kindFound, logicFound,
      conditionsAccepted, actionsAccepted, rfl⟩
    simp only [compile, kindFound, logicFound, conditionsAccepted,
      actionsAccepted, compiled]
    rfl

theorem id_of_compile {stored : StoredRule} {rule : Rule}
    (success : stored.compile = .ok rule) :
    rule.id = stored.id := by
  obtain ⟨_, _, _, _, _, _, _, _, rfl⟩ := compile_eq_ok_iff.mp success
  rfl

/-- The actions of a compiled rule are those of its accepted payload. -/
theorem actions_of_compile {stored : StoredRule} {rule : Rule}
    (success : stored.compile = .ok rule) :
    ∃ actions, Payload.Actions.check .storage (payload stored.actions) =
      .accepted actions ∧
      rule.actions = actions.compile stored.transferTo := by
  obtain ⟨_, _, _, actions, _, _, _, accepted, rfl⟩ :=
    compile_eq_ok_iff.mp success
  exact ⟨actions, accepted, rfl⟩

/-- A compiled rule has at most one action of each kind. -/
theorem oneOfEachKind_of_compile {stored : StoredRule} {rule : Rule}
    (success : stored.compile = .ok rule) : rule.OneOfEachKind := by
  obtain ⟨payload, _, actions⟩ := actions_of_compile success
  rw [Rule.OneOfEachKind, actions]
  exact (payload.keys_compile_sublist stored.transferTo).nodup (by decide)

end StoredRule

end LedgerRules
