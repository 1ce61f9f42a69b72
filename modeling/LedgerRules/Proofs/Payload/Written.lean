import LedgerRules.Payload.RuleRequest
import LedgerRules.Proofs.Payload.Accepting

/-!
# Payloads that were written

An accepted payload is stored as its fields without nulls.  What is stored is
accepted again, and it is read as the payload that was written.
-/

namespace LedgerRules

namespace Payload

section Fields

variable {Value : Type} {fields : Fields} {name : String}

theorem lookUp_eq_none_of_not_mem (absent : name ∉ fields.map Prod.fst) :
    Json.lookUp name fields = none := by
  induction fields with
  | nil => rfl
  | cons field rest induction =>
      obtain ⟨key, value⟩ := field
      rw [List.map_cons, List.mem_cons, not_or] at absent
      rw [Json.lookUp, if_neg (Ne.symm absent.1)]
      exact induction absent.2

theorem keys_withoutNulls_subset (fields : Fields) :
    (withoutNulls fields).map Prod.fst ⊆ fields.map Prod.fst :=
  List.map_subset Prod.fst (List.filter_subset_self fields)

private theorem lookUp_withoutNulls (distinct : (fields.map Prod.fst).Nodup)
    (name : String) :
    Json.lookUp name (withoutNulls fields) =
      (Json.lookUp name fields).filter fun value =>
        match value with
        | .null => false
        | _ => true := by
  induction fields with
  | nil => rfl
  | cons field rest induction =>
      obtain ⟨key, value⟩ := field
      rw [List.map_cons, List.nodup_cons] at distinct
      by_cases same : key = name
      · subst same
        rw [Json.lookUp, if_pos rfl]
        cases value with
        | null =>
            have absent : key ∉ (withoutNulls rest).map Prod.fst :=
              fun member => distinct.1 (keys_withoutNulls_subset rest member)
            exact lookUp_eq_none_of_not_mem absent
        | _ => simp [withoutNulls, Json.lookUp, Option.filter]
      · rw [Json.lookUp, if_neg same, ← induction distinct.2]
        cases value with
        | null => rfl
        | _ => simp [withoutNulls, Json.lookUp, same]

/-- A field that was written as `null` or as a value that is not, as it is found
without nulls. -/
theorem lookUp_written {write : Value → Json} {value? : Option Value}
    (distinct : (fields.map Prod.fst).Nodup)
    (written : Json.lookUp name fields = some ((value?.map write).getD .null))
    (notNull : ∀ value, write value ≠ .null) :
    Json.lookUp name (withoutNulls fields) = value?.map write := by
  rw [lookUp_withoutNulls distinct, written]
  cases value? with
  | none => rfl
  | some value =>
      cases image : write value with
      | null => exact (notNull value image).elim
      | _ => simp [image]

private theorem nullable_of_ne_null {value : Json} (notNull : value ≠ .null)
    (check : Check Value) :
    nullable check value = some <$> check value := by
  cases value with
  | null => exact (notNull rfl).elim
  | _ => rfl

theorem optional_of_lookUp {write : Value → Json} {check : Check Value}
    {value? : Option Value} (found : Json.lookUp name fields = value?.map write)
    (notNull : ∀ value, write value ≠ .null)
    (readBack : ∀ value ∈ value?, check (write value) = .accepted value) :
    optional fields name check = .accepted value? := by
  rw [optional, defaulted, found]
  cases value? with
  | none => rfl
  | some value =>
      simp only [Option.map_some, nullable_of_ne_null (notNull value),
        readBack value rfl]
      rfl

theorem unknownFields_eq_nil {known : List String}
    (subset : fields.map Prod.fst ⊆ known) :
    unknownFields known fields = [] := by
  rw [unknownFields, List.map_eq_nil_iff, List.filter_eq_nil_iff]
  intro field member
  have isKnown : field.1 ∈ known := subset (List.mem_map_of_mem member)
  simp [isKnown]

end Fields

theorem oneOf_of_mem {options : List String} {option : String}
    (member : option ∈ options) :
    oneOf options (.str option) = .accepted option := by
  simp [oneOf, member]

theorem list_text_texts (values : List String) :
    list text (Conditions.texts values) = .accepted values := by
  have readBack : ∀ value, text (.str value) = .accepted value := fun _ => rfl
  exact checkItems_map readBack values 0

namespace Conditions

/-- Conditions as a check leaves them: the pattern is the one of its text, the
range is in order, and the type is one that transactions have. -/
structure Lawful (conditions : Conditions) : Prop where
  pattern : ∀ pattern ∈ conditions.descriptionPattern,
    Pattern.parse pattern.text = .ok pattern
  range : ∀ range ∈ conditions.amountBetween, range.1.exceeds range.2 = false
  type : ∀ type ∈ conditions.type, type ∈ transactionTypes

private theorem parse_text {text : String} {pattern : Pattern}
    (parsed : Pattern.parse text = .ok pattern) :
    pattern.text = text := by
  obtain ⟨⟨tree, progress⟩, _, parsed⟩ := bind_eq_ok_iff.mp parsed
  dsimp only at parsed
  split at parsed
  case isTrue => cases parsed
  case isFalse =>
    split at parsed
    case h_1 => cases parsed
    case h_2 =>
      cases parsed
      rfl

theorem parse_of_pattern {value : Json} {pattern : Pattern}
    (accepted : Conditions.pattern value = .accepted pattern) :
    Pattern.parse pattern.text = .ok pattern := by
  cases value with
  | str written =>
      simp only [Conditions.pattern, text, Checked.andThen] at accepted
      split at accepted
      case h_1 read parsed =>
        cases accepted
        rw [parse_text parsed, parsed]
      all_goals cases accepted
  | _ => cases accepted

theorem orderedPair_eq_accepted_iff {value : Json} {range : Double × Double} :
    orderedPair value = .accepted range ↔
      doublePair value = .accepted range ∧ range.1.exceeds range.2 = false := by
  unfold orderedPair
  cases doublePair value with
  | accepted pair =>
      simp only [Checked.andThen, Checked.accepted.injEq]
      cases exceeds : pair.1.exceeds pair.2 with
      | true =>
          simp only [if_true]
          constructor
          · nofun
          · rintro ⟨rfl, ordered⟩
            rw [exceeds] at ordered
            cases ordered
      | false =>
          simp only [Bool.false_eq_true, if_false, Checked.accepted.injEq]
          constructor
          · rintro rfl
            exact ⟨rfl, exceeds⟩
          · exact And.left
  | rejected problems => simp [Checked.andThen]
  | overflowed => simp [Checked.andThen]

/-- Conditions that are accepted are lawful. -/
theorem lawful_of_check {origin : Origin} {value : Json}
    {conditions : Conditions}
    (accepted : check origin value = .accepted conditions) :
    conditions.Lawful := by
  cases value with
  | obj fields =>
      change checkFields fields = .accepted conditions at accepted
      have checked := Checked.eq_accepted_of_alsoReporting accepted
      simp only [Checked.seq_eq_accepted_iff, Checked.map_eq_accepted_iff]
        at checked
      obtain ⟨_, _,
        ⟨_, _, ⟨_, _,
        ⟨_, _, ⟨_, _,
          ⟨_, _, ⟨_, _, ⟨_, _, ⟨_, _, ⟨_, _, rfl⟩, _, rfl⟩, pattern, rfl⟩,
          range, rfl⟩, _, rfl⟩, _, rfl⟩, type, rfl⟩, _, rfl⟩, _, rfl⟩, _,
          rfl⟩ :=
        checked
      refine ⟨?_, ?_, ?_⟩
      · intro read present
        obtain ⟨_, chosen⟩ :=
          eq_accepted_of_optional (pattern.trans (congrArg _ present))
        exact parse_of_pattern chosen
      · intro read present
        obtain ⟨_, chosen⟩ :=
          eq_accepted_of_optional (range.trans (congrArg _ present))
        exact (orderedPair_eq_accepted_iff.mp chosen).2
      · intro read present
        exact mem_of_optional_oneOf (type.trans (congrArg _ present))
  | _ => cases origin <;> cases accepted

section Dump

variable (conditions : Conditions)

theorem keys_dump_subset : (withoutNulls conditions.dump).map Prod.fst ⊆
    names :=
  keys_withoutNulls_subset conditions.dump

private theorem withClosedRange_dump :
    withClosedRange (withoutNulls conditions.dump) =
      withoutNulls conditions.dump := by
  have absent : ∀ {name : String}, name ∉ names →
      Json.lookUp name (withoutNulls conditions.dump) = none :=
    fun unknown => lookUp_eq_none_of_not_mem fun member =>
      unknown (conditions.keys_dump_subset member)
  have least : Json.lookUp "amount_min" (withoutNulls conditions.dump) = none :=
    absent (by decide)
  have greatest : Json.lookUp "amount_max" (withoutNulls conditions.dump) =
      none :=
    absent (by decide)
  simp [withClosedRange, least, greatest]

variable {conditions}

theorem optional_dump {Value : Type} {write : Value → Json}
    {check : Check Value} {value? : Option Value} {name : String}
    (written : Json.lookUp name conditions.dump =
      some ((value?.map write).getD .null))
    (notNull : ∀ value, write value ≠ .null)
    (readBack : ∀ value ∈ value?, check (write value) = .accepted value) :
    optional (withoutNulls conditions.dump) name check = .accepted value? := by
  have distinct : (conditions.dump.map Prod.fst).Nodup := by
    change names.Nodup
    decide
  exact optional_of_lookUp (lookUp_written distinct written notNull) notNull
    readBack

theorem pattern_text {read : Pattern}
    (parsed : Pattern.parse read.text = .ok read) :
    pattern (.str read.text) = .accepted read := by
  simp [pattern, text, Checked.andThen, parsed]

theorem orderedPair_floats {range : Double × Double}
    (inOrder : range.1.exceeds range.2 = false) :
    orderedPair (.arr [.float range.1, .float range.2]) = .accepted range := by
  change (if range.1.exceeds range.2 then _ else _) = _
  rw [inOrder]
  rfl

/-- What is stored of lawful conditions is accepted, and read as these
conditions. -/
theorem check_dump (lawful : conditions.Lawful) (origin : Origin) :
    check origin (.obj (withoutNulls conditions.dump)) =
      .accepted conditions := by
  have textsRead : ∀ {name : String} {value? : Option (List String)},
      Json.lookUp name conditions.dump = some ((value?.map texts).getD .null) →
      optional (withoutNulls conditions.dump) name (list text) =
        .accepted value? :=
    fun written => optional_dump written nofun fun values _ =>
      list_text_texts values
  have textRead : ∀ {name : String} {value? : Option String},
      Json.lookUp name conditions.dump = some ((value?.map .str).getD .null) →
      optional (withoutNulls conditions.dump) name text = .accepted value? :=
    fun written => optional_dump written nofun fun _ _ => rfl
  have rawTextContains : optional (withoutNulls conditions.dump)
      "raw_text_contains" (list text) =
      .accepted conditions.rawTextContains := textsRead rfl
  have descriptionContains : optional (withoutNulls conditions.dump)
      "description_contains"
      (list text) = .accepted conditions.descriptionContains := textsRead rfl
  have descriptionPattern : optional (withoutNulls conditions.dump)
      "description_regex" pattern =
      .accepted conditions.descriptionPattern :=
    optional_dump rfl nofun fun read given =>
      pattern_text (lawful.pattern read given)
  have amountBetween : optional (withoutNulls conditions.dump) "amount_between"
      orderedPair =
      .accepted conditions.amountBetween :=
    optional_dump rfl nofun fun range given =>
      orderedPair_floats (lawful.range range given)
  have amountEquals : optional (withoutNulls conditions.dump) "amount_equals"
      double =
      .accepted conditions.amountEquals :=
    optional_dump rfl nofun fun _ _ => rfl
  have source : optional (withoutNulls conditions.dump) "source" (list text) =
      .accepted conditions.source := textsRead rfl
  have type : optional (withoutNulls conditions.dump) "type"
      (oneOf transactionTypes) =
      .accepted conditions.type :=
    optional_dump rfl nofun fun type given =>
      oneOf_of_mem (lawful.type type given)
  have fromAccount : optional (withoutNulls conditions.dump) "from_account"
      text =
      .accepted conditions.fromAccount := textRead rfl
  have toAccount : optional (withoutNulls conditions.dump) "to_account" text =
      .accepted conditions.toAccount := textRead rfl
  have category : optional (withoutNulls conditions.dump) "category" text =
      .accepted conditions.category := textRead rfl
  change checkFields (withoutNulls conditions.dump) = _
  simp only [checkFields, withClosedRange_dump, rawTextContains,
    descriptionContains, descriptionPattern, amountBetween, amountEquals,
    source, type, fromAccount, toAccount,
    category, unknownFields_eq_nil conditions.keys_dump_subset]
  rfl

end Dump

end Conditions

namespace Actions

/-- Actions as a check leaves them: the type is one that transactions have. -/
def Lawful (actions : Actions) : Prop :=
  ∀ type ∈ actions.setType, type ∈ transactionTypes

theorem lawful_of_check {origin : Origin} {value : Json} {actions : Actions}
    (accepted : check origin value = .accepted actions) : actions.Lawful :=
  fun _ sets => setType_mem accepted sets

section Dump

variable {actions : Actions}

theorem keys_dump_subset (actions : Actions) :
    (withoutNulls actions.dump).map Prod.fst ⊆ names :=
  keys_withoutNulls_subset actions.dump

/-- What is stored of lawful actions is accepted, and read as these actions. -/
theorem check_dump (lawful : actions.Lawful) (origin : Origin) :
    check origin (.obj (withoutNulls actions.dump)) = .accepted actions := by
  have distinct : (actions.dump.map Prod.fst).Nodup := by
    change names.Nodup
    decide
  have textRead :
      ∀ {name : String} {value? : Option String} {check : Check String},
      Json.lookUp name actions.dump = some (.ofText? value?) →
      (∀ value ∈ value?, check (.str value) = .accepted value) →
      optional (withoutNulls actions.dump) name check = .accepted value? := by
    intro name value? check written readBack
    have asMapped : Json.lookUp name actions.dump =
        some ((value?.map .str).getD .null) := by
      rw [written]
      cases value? <;> rfl
    exact optional_of_lookUp (lookUp_written distinct asMapped nofun) nofun
      readBack
  have setType : optional (withoutNulls actions.dump) "set_type"
      (oneOf transactionTypes) =
      .accepted actions.setType :=
    textRead rfl fun type given => oneOf_of_mem (lawful type given)
  have setCategory : optional (withoutNulls actions.dump) "set_category" text =
      .accepted actions.setCategory := textRead rfl fun _ _ => rfl
  have setAccount : optional (withoutNulls actions.dump) "set_account" text =
      .accepted actions.setAccount := textRead rfl fun _ _ => rfl
  have linkToAccount : optional (withoutNulls actions.dump) "link_to_account"
      text =
      .accepted actions.linkToAccount := textRead rfl fun _ _ => rfl
  have autoReconcile : optional (withoutNulls actions.dump) "auto_reconcile"
      bool =
      .accepted actions.autoReconcile :=
    optional_of_lookUp (lookUp_written distinct rfl nofun) nofun fun _ _ => rfl
  have addNote : optional (withoutNulls actions.dump) "add_note" text =
      .accepted actions.addNote := textRead rfl fun _ _ => rfl
  exact checkFields_eq_accepted_iff.mpr
    ⟨setType, setCategory, setAccount, linkToAccount, autoReconcile, addNote,
      unknownFields_eq_nil actions.keys_dump_subset⟩

end Dump

end Actions

namespace RuleRequest

/-- The fields of a request for a rule are what the checks of an object's fields
answer. -/
structure Reads (origin : Origin) (fields : Fields)
    (request : RuleRequest) : Prop where
  name : required fields "name" (boundedText 1 longestName) =
    .accepted request.name
  isActive : defaulted fields "is_active" true bool = .accepted request.isActive
  priority : defaulted fields "priority" 0 int = .accepted request.priority
  ruleType : defaulted fields "rule_type" "general" (oneOf ruleTypes) =
    .accepted request.ruleType
  logic : defaulted fields "condition_logic" "and" (oneOf logics) =
    .accepted request.logic
  conditions : defaulted fields "conditions" {} (Conditions.check origin) =
    .accepted request.conditions
  actions : defaulted fields "actions" {} (Actions.check origin) =
    .accepted request.actions
  promptText : optional fields "prompt_text" text = .accepted request.promptText
  matchPhone : optional fields "match_phone" text = .accepted request.matchPhone
  transferTo : optional fields "transfer_to_account_id" text =
    .accepted request.transferTo

theorem checkFields_eq_accepted_iff {origin : Origin} {fields : Fields}
    {request : RuleRequest} :
    checkFields origin fields = .accepted request ↔
      Reads origin fields request := by
  constructor
  · intro accepted
    simp only [checkFields, Checked.seq_eq_accepted_iff,
      Checked.map_eq_accepted_iff] at accepted
    obtain ⟨_, _,
      ⟨_, _, ⟨_, _,
      ⟨_, _, ⟨_, _,
        ⟨_, _, ⟨_, _,
        ⟨_, _, ⟨_, _, ⟨_, name, rfl⟩, isActive, rfl⟩, priority, rfl⟩, ruleType,
        rfl⟩, logic, rfl⟩, conditions, rfl⟩, actions, rfl⟩,
      promptText, rfl⟩, matchPhone, rfl⟩, transferTo, rfl⟩ := accepted
    exact ⟨name, isActive, priority, ruleType, logic, conditions, actions,
      promptText, matchPhone, transferTo⟩
  · intro reads
    simp only [checkFields, reads.name, reads.isActive, reads.priority,
      reads.ruleType, reads.logic, reads.conditions, reads.actions,
      reads.promptText, reads.matchPhone,
      reads.transferTo]
    rfl

/-- A request for a rule as a check leaves it. -/
structure Lawful (request : RuleRequest) : Prop where
  ruleType : request.ruleType ∈ ruleTypes
  logic : request.logic ∈ logics
  conditions : request.conditions.Lawful
  actions : request.actions.Lawful

theorem Reads.lawful {origin : Origin} {fields : Fields} {request : RuleRequest}
    (reads : Reads origin fields request) : request.Lawful := by
  refine ⟨mem_of_defaulted_oneOf (by decide) reads.ruleType,
    mem_of_defaulted_oneOf (by decide) reads.logic, ?_, ?_⟩
  · rcases eq_accepted_of_defaulted reads.conditions with ⟨_, given⟩ | absent
    · exact Conditions.lawful_of_check given
    · rw [← absent]
      exact ⟨nofun, nofun, nofun⟩
  · rcases eq_accepted_of_defaulted reads.actions with ⟨_, given⟩ | absent
    · exact Actions.lawful_of_check given
    · rw [← absent]
      exact nofun

theorem lawful_of_checkBody {body : Json} {request : RuleRequest}
    (accepted : Service.checkBody (check .request) body = .accepted request) :
    request.Lawful := by
  obtain ⟨_, _, checked⟩ := checkBody_model_eq_accepted_iff.mp accepted
  exact (checkFields_eq_accepted_iff.mp checked).lawful

end RuleRequest

end Payload

end LedgerRules
