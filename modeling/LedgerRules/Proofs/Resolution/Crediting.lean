import LedgerRules.Proofs.Resolution.Answering

/-!
# What the audit trail records

Type, category, account and destination belong to the first rule that has a
value for them.  So the audit trail records each of them once at most, and with
the value that folding has settled.  Linking comes after that and leaves the
trail alone: trail and resolution agree on a field unless linking has overruled
the rule that is credited with it.
-/

namespace LedgerRules

/-- The fields that belong to the first rule that writes them. -/
inductive Exclusive where
  | type
  | category
  | account
  | destination
deriving DecidableEq, Repr

namespace Exclusive

/-- The name under which rules are credited with a field. -/
def name : Exclusive → String
  | type => "set_type"
  | category => "set_category"
  | account => "set_account"
  | destination => "link_to_account"

/-- What an action writes into a field. -/
def written? : Exclusive → Action → Option String
  | type => Action.type?
  | category => Action.category?
  | account => Action.account?
  | destination => Action.destination?

/-- What a resolution has in a field. -/
def value? : Exclusive → Resolution → Option String
  | type, resolution => some resolution.type
  | category, resolution => resolution.categoryId
  | account, resolution => resolution.accountId
  | destination, resolution => resolution.transferTo

section Writing

variable {field : Exclusive} {action : Action} {value : String}

theorem key_and_credit_of_written
    (written : field.written? action = some value) :
    action.key = field.name ∧ action.credit = .str value := by
  cases field <;> cases action <;> cases written <;> exact ⟨rfl, rfl⟩

theorem written?_eq_none_iff : field.written? action = none ↔
    action.key ≠ field.name := by
  cases field <;> cases action <;> simp [written?, Action.key, name]

theorem lookUp_credited (actions : List Action) :
    Json.lookUp field.name
      (actions.map fun action => (action.key, action.credit)) =
      (actions.findSome? field.written?).map Json.str := by
  induction actions with
  | nil => rfl
  | cons action rest induction =>
      rw [List.map_cons, Json.lookUp, List.findSome?_cons, induction]
      cases written : field.written? action with
      | none => exact if_neg (written?_eq_none_iff.mp written)
      | some value =>
          obtain ⟨key, credit⟩ := key_and_credit_of_written written
          rw [if_pos key, credit]
          rfl

end Writing

/-- What a rule has for a field.  A destination counts only when it is known. -/
def offered? (known : KnownAccounts) : Exclusive → Rule → Option String
  | type, rule => rule.type?
  | category, rule => rule.category?
  | account, rule => rule.account?
  | destination, rule => rule.destination?.filter known.allow

/-- What the first rule that has something for a field has for it. -/
def first? (known : KnownAccounts) (field : Exclusive) (rules : List Rule) :
    Option String :=
  rules.findSome? fun rule => field.offered? known rule

/-- Whether a value may be written into a field. -/
def admits (known : KnownAccounts) : Exclusive → String → Bool
  | destination, accountId => known.allow accountId
  | _, _ => true

section Settling

variable {known : KnownAccounts} {field : Exclusive} {earlier rules : List Rule}
  {value : String}

theorem eq_filter_of_forall {admitted : String → Bool}
    (every : ∀ value, admitted value = true) (value? : Option String) :
    value? = value?.filter admitted := by
  cases value? <;> simp [Option.filter, every]

theorem offered?_eq_filter (rule : Rule) :
    field.offered? known rule =
      (rule.actions.findSome? field.written?).filter (field.admits known) := by
  cases field with
  | destination => rfl
  | type => exact eq_filter_of_forall (fun _ => rfl) rule.type?
  | category => exact eq_filter_of_forall (fun _ => rfl) rule.category?
  | account => exact eq_filter_of_forall (fun _ => rfl) rule.account?

theorem first?_cons (rule : Rule) :
    field.first? known (rule :: rules) =
      (field.offered? known rule).or (field.first? known rules) := by
  rw [first?, List.findSome?_cons]
  cases field.offered? known rule <;> rfl

theorem first?_append_singleton (rule : Rule) :
    field.first? known (earlier ++ [rule]) =
      (field.first? known earlier).or (field.offered? known rule) := by
  simp [first?, List.findSome?_append]

theorem value?_settlement (first : field.first? known rules = some value)
    (candidate : Candidate) :
    field.value? (settlement known candidate rules) = some value := by
  cases field with
  | type =>
      have firstType : Settlement.firstType? rules = some value := first
      simp [value?, settlement, firstType]
  | category =>
      have firstCategory : Settlement.firstCategory? rules = some value := first
      simp [value?, settlement, firstCategory]
  | account =>
      have firstAccount : Settlement.firstAccount? rules = some value := first
      simp [value?, settlement, firstAccount]
  | destination =>
      have firstDestination : Settlement.firstDestination? known rules =
          some value := first
      simp [value?, settlement, firstDestination]

theorem contributes_of_written {action : Action}
    (written : field.written? action = some value) :
    Settlement.contributes known earlier action =
      ((field.first? known earlier).isNone && field.admits known value) := by
  cases field <;> cases action <;> cases written
  case destination => rfl
  all_goals exact (Bool.and_true _).symm

/-- Of actions of different kinds, those that contribute write into a field what
all of them write into it, if it is admitted, while no earlier rule has a value
for the field. -/
theorem findSome?_contributing {actions : List Action}
    (distinct : (actions.map Action.key).Nodup) :
    (actions.filter (Settlement.contributes known earlier)).findSome?
      field.written? =
      if (field.first? known earlier).isSome then none
      else (actions.findSome? field.written?).filter (field.admits known) := by
  induction actions with
  | nil => simp
  | cons action rest induction =>
      obtain ⟨newKind, distinctRest⟩ := List.nodup_cons.mp distinct
      specialize induction distinctRest
      cases written : field.written? action with
      | none =>
          have skipped : (action :: rest).findSome? field.written? =
              rest.findSome? field.written? := by simp [written]
          rw [skipped, ← induction]
          by_cases contributing : Settlement.contributes known earlier action =
            true
          · simp [List.filter_cons_of_pos contributing, written]
          · rw [List.filter_cons_of_neg contributing]
      | some value =>
          -- No other action is of this kind, so none writes the field after
          -- this one.
          have absent : rest.findSome? field.written? = none := by
            apply Settling.findSome?_eq_none
              (fun other => written?_eq_none_iff.mpr)
            rw [← (key_and_credit_of_written written).1]
            exact newKind
          rw [absent] at induction
          rw [List.filter_cons, contributes_of_written written]
          cases taken : field.first? known earlier <;>
            cases admitted : field.admits known value <;>
            simp_all [Option.filter]

theorem lookUp_credit? {rule : Rule} (single : rule.OneOfEachKind) :
    ((Settlement.credit? known (earlier, rule)).bind fun applied =>
        Json.lookUp field.name applied.actions) =
      (if (field.first? known earlier).isSome then none
        else field.offered? known rule).map Json.str := by
  rw [offered?_eq_filter, ← findSome?_contributing single, ← lookUp_credited]
  unfold Settlement.credit?
  cases rule.actions.filter (Settlement.contributes known earlier) <;> rfl

private theorem recorded_turns (earlier : List Rule)
    (single : ∀ rule ∈ rules, rule.OneOfEachKind) :
    ((Settlement.turns earlier rules).filterMap
      (Settlement.credit? known)).filterMap
        (fun applied => Json.lookUp field.name applied.actions) =
      ((if (field.first? known earlier).isSome then none
        else field.first? known rules).map Json.str).toList := by
  rw [List.filterMap_filterMap]
  -- The rules before grow by one in each turn, so they stay general.
  induction rules generalizing earlier with
  | nil => simp [Settlement.turns, first?]
  | cons rule rest induction =>
      obtain ⟨singleRule, singleRest⟩ := List.forall_mem_cons.mp single
      rw [Settlement.turns, Selection.filterMap_cons_eq, induction _ singleRest,
        lookUp_credit? singleRule, first?_append_singleton, first?_cons]
      cases field.first? known earlier <;> cases field.offered? known rule <;>
        simp

end Settling

theorem ne_empty_of_compile {stored : StoredRule} {rule : Rule}
    (success : stored.compile = .ok rule) {action : Action}
    (member : action ∈ rule.actions) {field : Exclusive} {value : String}
    (written : field.written? action = some value) :
    value ≠ "" := by
  obtain ⟨payload, _, actions⟩ := StoredRule.actions_of_compile success
  rw [actions] at member
  cases Payload.Actions.makes_of_mem_compile member with
  | reconcile | addNote => cases field <;> cases written
  | linkTo given =>
      cases field <;> cases written
      rcases Option.or_eq_some_iff.mp given with inPayload | ⟨_, inRule⟩
      · exact (nonEmpty?_eq_some_iff.mp inPayload).2
      · exact (nonEmpty?_eq_some_iff.mp inRule).2
  | _ given =>
      cases field <;> cases written
      exact (nonEmpty?_eq_some_iff.mp given).2

end Exclusive

namespace Resolution

/-- The values that the audit trail records for a field, one for each rule that
is credited with it. -/
def recorded (resolution : Resolution) (field : Exclusive) : List Json :=
  resolution.appliedRules.filterMap fun applied =>
    Json.lookUp field.name applied.actions

/-- The resolution has what its audit trail records for a field. -/
def Agrees (resolution : Resolution) (field : Exclusive) : Prop :=
  ∀ value ∈ resolution.recorded field, (field.value? resolution).map Json.str =
    some value

/-- The fields in which linking has overruled a rule that is credited: the type
of a new transfer, and a destination that is the account itself. -/
inductive Overruled (resolution : Resolution) : Exclusive → Prop where
  | retyped {type : String} (credited : .str type ∈ resolution.recorded .type)
      (requested : resolution.transferRequest.isSome = true)
        (other : type ≠ transferType) :
      Overruled resolution .type
  | ownAccount {accountId : String}
      (credited : .str accountId ∈ resolution.recorded .destination)
      (unlinked : nonEmpty? resolution.transferId = none)
      (own : resolution.accountId = some accountId) :
        Overruled resolution .destination

section Trail

variable {known : KnownAccounts} {ids : IdSource} {rules : List StoredRule}
  {candidate : Candidate} {selection : Selection} {resolution : Resolution}
  {field : Exclusive} {value : String} {outcome : Resolution × IdSource}

theorem agrees_iff_of_recorded
    (credited : resolution.recorded field = [.str value]) :
    resolution.Agrees field ↔ field.value? resolution = some value := by
  rw [Agrees, credited, List.forall_mem_singleton]
  cases field.value? resolution <;> simp

theorem not_overruled_of_unrecorded
    (unrecorded : resolution.recorded field = []) :
    ¬ resolution.Overruled field := by
  intro overruled
  cases overruled with
  | retyped credited | ownAccount credited =>
      rw [unrecorded] at credited
      cases credited

theorem overruled_type_iff
    (credited : resolution.recorded .type = [.str value]) :
    resolution.Overruled .type ↔
      resolution.transferRequest.isSome = true ∧ value ≠ transferType := by
  constructor
  · intro overruled
    cases overruled with
    | retyped member requested other =>
        rw [credited, List.mem_singleton] at member
        cases member
        exact ⟨requested, other⟩
  · rintro ⟨requested, other⟩
    exact .retyped (credited ▸ List.mem_singleton_self _) requested other

private theorem overruled_destination_iff
    (credited : resolution.recorded .destination = [.str value]) :
    resolution.Overruled .destination ↔
      nonEmpty? resolution.transferId = none ∧
      resolution.accountId = some value := by
  constructor
  · intro overruled
    cases overruled with
    | ownAccount member unlinked own =>
        rw [credited, List.mem_singleton] at member
        cases member
        exact ⟨unlinked, own⟩
  · rintro ⟨unlinked, own⟩
    exact .ownAccount (credited ▸ List.mem_singleton_self _) unlinked own

/-- The audit trail of what rules settle records the first value of each
field. -/
theorem recorded_settlement {matching : List Rule}
    (single : ∀ rule ∈ matching, rule.OneOfEachKind) (candidate : Candidate)
    (field : Exclusive) :
    (settlement known candidate matching).recorded field =
      ((field.first? known matching).map Json.str).toList :=
  Exclusive.recorded_turns [] single

theorem Linked.recorded_eq (linked : Linked known ids resolution outcome)
    (field : Exclusive) :
    outcome.1.recorded field = resolution.recorded field := by
  rw [recorded, recorded, linked.keeps.2.2]

theorem oneOfEachKind_of_matching
    (selected : Selection.select .general rules = .ok selection) :
    ∀ rule ∈ selection.rules.filter (Rule.fits candidate),
      rule.OneOfEachKind := by
  intro rule member
  exact Selection.oneOfEachKind_of_select selected (List.mem_filter.mp member).1

theorem recorded_of_linked
    (selected : Selection.select .general rules = .ok selection)
    (linked : Linked known ids
      ((settlement known candidate
      (selection.rules.filter (Rule.fits candidate))).reporting
      selection.issues) outcome)
    (field : Exclusive) :
    outcome.1.recorded field =
      ((field.first? known (selection.rules.filter (Rule.fits candidate))).map
        Json.str).toList := by
  rw [linked.recorded_eq]
  exact recorded_settlement (oneOfEachKind_of_matching selected) candidate field

theorem ne_empty_of_first?
    (selected : Selection.select .general rules = .ok selection)
    (first : field.first? known (selection.rules.filter (Rule.fits candidate)) =
      some value) :
    value ≠ "" := by
  obtain ⟨rule, member, offered⟩ := List.exists_of_findSome?_eq_some first
  rw [Exclusive.offered?_eq_filter, Option.filter_eq_some_iff] at offered
  obtain ⟨action, done, written⟩ := List.exists_of_findSome?_eq_some offered.1
  obtain ⟨stored, _, _, compiled⟩ :=
    Selection.mem_of_select selected (List.mem_filter.mp member).1
  exact Exclusive.ne_empty_of_compile compiled done written

theorem allow_of_first? {matching : List Rule}
    (first : Exclusive.first? known .destination matching = some value) :
    known.allow value = true := by
  obtain ⟨rule, _, offered⟩ := List.exists_of_findSome?_eq_some first
  exact (Option.filter_eq_some_iff.mp offered).2

theorem agrees_iff_not_overruled
    (success : resolve known ids rules candidate = .ok outcome)
    (field : Exclusive) :
    outcome.1.Agrees field ↔ ¬ outcome.1.Overruled field := by
  obtain ⟨selection, selected, _, linked⟩ := resolve_eq_ok_iff_linked.mp success
  have credited := recorded_of_linked selected linked field
  cases first :
    field.first? known (selection.rules.filter (Rule.fits candidate)) with
  | none =>
      rw [first] at credited
      refine iff_of_true ?_ (not_overruled_of_unrecorded credited)
      rw [Agrees, credited]
      exact nofun
  | some value =>
      rw [first] at credited
      rw [agrees_iff_of_recorded credited]
      have settled := Exclusive.value?_settlement first candidate
      obtain ⟨account, category, _⟩ := linked.keeps
      -- Folding has settled what is recorded; linking touches type and
      -- destination only.
      cases field with
      | account => exact iff_of_true (account.trans settled) nofun
      | category => exact iff_of_true (category.trans settled) nofun
      | type =>
          have type := linked.type_eq rfl
          rw [overruled_type_iff credited, Exclusive.value?, type]
          cases requested : outcome.1.transferRequest.isSome with
          | false => exact iff_of_true settled nofun
          | true => simp [eq_comm]
      | destination =>
          have destined := nonEmpty?_eq_some_iff.mpr
            ⟨settled, ne_empty_of_first? selected first⟩
          rw [overruled_destination_iff credited]
          exact linked.transferTo_eq_iff destined (allow_of_first? first)

/-- The audit trail records each exclusive field once at most, and agrees with
the resolution on it unless linking has overruled the credited rule. -/
theorem recorded_once_and_agrees_iff
    (success : resolve known ids rules candidate = .ok outcome)
    (field : Exclusive) :
    (outcome.1.recorded field).length ≤ 1 ∧
      (outcome.1.Agrees field ↔ ¬ outcome.1.Overruled field) := by
  refine ⟨?_, agrees_iff_not_overruled success field⟩
  obtain ⟨selection, selected, _, linked⟩ := resolve_eq_ok_iff_linked.mp success
  rw [recorded_of_linked selected linked]
  exact Option.length_toList_le

end Trail

/-- A rule that files the rent and pays it from one account to another, and a
rule of less priority that is credited only with what the first one leaves
open. -/
def rentRules : List StoredRule := [
  { id := "bills", name := "Bills"
    actions := .obj
      [("set_type", .str "transfer"), ("set_category", .str "bills"),
        ("set_account", .str "wallet"), ("link_to_account", .str "savings")] },
  { id := "rent", name := "Rent", priority := 1
    conditions := .obj [("description_contains", .arr [.str "RENT"])]
    actions := .obj
      [("set_category", .str "home"), ("link_to_account", .str "joint")] }]

def rent : Candidate where
  description := some "Rent of June"
  amount := .ofInt 700
  transferTo := some "savings"

def rentAccounts : KnownAccounts := some ["wallet", "joint", "savings"]

theorem recorded_once_and_agrees_iff_rent :
    ∃ outcome, resolve rentAccounts .transfers rentRules rent = .ok outcome ∧
      outcome.1.recorded .category = [.str "home"] ∧
      ∀ field, (outcome.1.recorded field).length ≤ 1 ∧
        (outcome.1.Agrees field ↔ ¬ outcome.1.Overruled field) := by
  have seen : (resolve rentAccounts .transfers rentRules rent).toOption.map
      (fun outcome => outcome.1.recorded .category) = some [.str "home"] := by
    cbv
  obtain ⟨outcome, success, credited⟩ := exists_ok_of_seen seen
  exact ⟨outcome, success, credited, recorded_once_and_agrees_iff success⟩

/-- A rule that calls a salary income and moves it on. -/
def salaryRules : List StoredRule := [
  { id := "salary", name := "Salary"
    conditions := .obj [("description_contains", .arr [.str "salary"])]
    actions := .obj
      [("set_type", .str "income"), ("link_to_account", .str "savings")] }]

/-- A salary that is paid to an account. -/
def salaryOn (accountId : String) : Candidate where
  description := some "Salary"
  amount := .ofInt 5
  accountId := some accountId

/-- The trail says income of what is a transfer, and names a destination that is
given up. -/
theorem not_agrees_salary :
    (∃ outcome, resolve none .transfers salaryRules (salaryOn "wallet") =
      .ok outcome ∧
      ¬ outcome.1.Agrees .type) ∧
    ∃ outcome, resolve none .transfers salaryRules (salaryOn "savings") =
      .ok outcome ∧
      ¬ outcome.1.Agrees .destination := by
  constructor
  · have seen :
        (resolve none .transfers salaryRules (salaryOn "wallet")).toOption.map
        (fun outcome => (outcome.1.recorded .type, outcome.1.type)) =
        some ([.str "income"], "transfer") := by
      cbv
    obtain ⟨outcome, success, same⟩ := exists_ok_of_seen seen
    obtain ⟨credited, type⟩ := Prod.mk.inj same
    refine ⟨outcome, success, ?_⟩
    simp [agrees_iff_of_recorded credited, Exclusive.value?, type]
  · have seen :
        (resolve none .transfers salaryRules (salaryOn "savings")).toOption.map
        (fun outcome =>
          (outcome.1.recorded .destination, outcome.1.transferTo)) =
        some ([.str "savings"], none) := by
      cbv
    obtain ⟨outcome, success, same⟩ := exists_ok_of_seen seen
    obtain ⟨credited, destination⟩ := Prod.mk.inj same
    refine ⟨outcome, success, ?_⟩
    simp [agrees_iff_of_recorded credited, Exclusive.value?, destination]

end Resolution

end LedgerRules
