import LedgerRules.Proofs.Payload.Written
import LedgerRules.Proofs.Rule.Overflowing

/-!
# What an object of conditions states

An object states a value under a name unless the value is `null`.  A range of
amounts may be stated by its ends alone.  An object is accepted when its names
are known and each value that it states is read by the check of its name, so
what it is read as depends only on what it states: neither on the order of its
names, nor on the order and the repetition of the terms and the sources that it
lists.
-/

namespace LedgerRules

namespace Payload

/-- A value that is not `null`. -/
def nonNull? : Json → Option Json
  | .null => none
  | value => some value

/-- What an object states under a name: the value there, unless it is `null`. -/
def stated? (name : String) (fields : Fields) : Option Json :=
  (Json.lookUp name fields).bind nonNull?

/-- A check reads what may be stated as what may be read. -/
abbrev ReadsAs {Value : Type} (check : Check Value) :
    Option Json → Option Value → Prop :=
  Option.Rel fun given value => check given = .accepted value

section Stated

variable {Value : Type} {fields others : Fields} {name : String}

/-- What is read was stated. -/
theorem ReadsAs.exists_given {check : Check Value} {given? : Option Json}
    {value? : Option Value} (reads : ReadsAs check given? value?)
    {value : Value} (read : value? = some value) :
    ∃ given, given? = some given ∧ check given = .accepted value := by
  subst read
  cases reads with
  | some accepted => exact ⟨_, rfl, accepted⟩

/-- What is stated is read. -/
theorem ReadsAs.exists_read {check : Check Value} {given? : Option Json}
    {value? : Option Value} (reads : ReadsAs check given? value?) {given : Json}
    (stated : given? = some given) :
    ∃ value, value? = some value ∧ check given = .accepted value := by
  subst stated
  cases reads with
  | some accepted => exact ⟨_, rfl, accepted⟩

theorem stated?_congr
    (same : Json.lookUp name others = Json.lookUp name fields) :
    stated? name others = stated? name fields := by
  rw [stated?, stated?, same]

theorem nullable_eq_accepted_iff {check : Check Value} {given : Json}
    {value? : Option Value} :
    nullable check given = .accepted value? ↔
      given = .null ∧ value? = none ∨
        given ≠ .null ∧ ∃ value, check given = .accepted value ∧
        value? = some value := by
  cases given with
  | null => simp [nullable, eq_comm]
  | _ => simp [nullable, Checked.map_eq_accepted_iff, eq_comm]

theorem optional_eq_accepted_iff {check : Check Value} {value? : Option Value} :
    optional fields name check = .accepted value? ↔
      ReadsAs check (stated? name fields) value? := by
  unfold optional defaulted stated?
  cases Json.lookUp name fields with
  | none => cases value? <;> simp
  | some given =>
      dsimp only
      rw [Checked.under_eq_accepted_iff, nullable_eq_accepted_iff]
      cases given <;> cases value? <;> simp [nonNull?]

theorem lookUp_eq_none_iff : Json.lookUp name fields = none ↔
    name ∉ fields.map Prod.fst := by
  constructor
  · intro absent member
    induction fields with
    | nil => cases member
    | cons field rest induction =>
        obtain ⟨key, value⟩ := field
        unfold Json.lookUp at absent
        split at absent
        case isTrue => cases absent
        case isFalse apart =>
          rcases List.mem_cons.mp member with same | later
          · exact apart same.symm
          · exact induction absent later
  · exact lookUp_eq_none_of_not_mem

theorem unknownFields_eq_nil_iff {known : List String} :
    unknownFields known fields = [] ↔
      ∀ name ∉ known, Json.lookUp name fields = none := by
  constructor
  · intro allKnown name unknown
    rw [unknownFields, List.map_eq_nil_iff, List.filter_eq_nil_iff] at allKnown
    rw [lookUp_eq_none_iff]
    intro member
    obtain ⟨field, fieldMember, rfl⟩ := List.mem_map.mp member
    exact allKnown field fieldMember (by simpa using unknown)
  · intro absent
    apply unknownFields_eq_nil
    intro name member
    by_contra unknown
    exact lookUp_eq_none_iff.mp (absent name unknown) member

end Stated

theorem text_eq_accepted_iff {given : Json} {value : String} :
    text given = .accepted value ↔ given = .str value := by
  cases given <;> simp [text, Checked.refuse]

theorem eq_str_of_oneOf {options : List String} {given : Json} {option : String}
    (accepted : oneOf options given = .accepted option) :
    given = .str option := by
  cases given with
  | str value =>
      simp only [oneOf] at accepted
      split at accepted
      case isTrue =>
        cases accepted
        rfl
      case isFalse => cases accepted
  | _ => cases accepted

theorem list_text_eq_accepted_iff {given : Json} {values : List String} :
    list text given = .accepted values ↔ given = .arr (values.map .str) := by
  constructor
  · intro accepted
    cases given with
    | arr items =>
        have checked := checkItems_eq_accepted_iff.mp accepted
        clear accepted
        congr 1
        induction checked with
        | nil => rfl
        | cons first _ induction =>
            rw [text_eq_accepted_iff.mp first, induction, List.map_cons]
    | _ => cases accepted
  · rintro rfl
    exact list_text_texts values

theorem pattern_eq_accepted_iff {given : Json} {pattern : Pattern} :
    Conditions.pattern given = .accepted pattern ↔
      ∃ written, given = .str written ∧
        Pattern.parse written = .ok pattern := by
  cases given with
  | str written =>
      cases parsed : Pattern.parse written with
      | ok read => simp [Conditions.pattern, text, Checked.andThen, parsed]
      | error fault =>
          cases fault <;>
          simp [Conditions.pattern, text, Checked.andThen, parsed,
            Checked.refuse]
  | _ => simp [Conditions.pattern, text, Checked.andThen, Checked.refuse]

/-- Two numbers are read from a list of exactly two values. -/
theorem eq_pair_of_doublePair {given : Json} {range : Double × Double}
    (accepted : doublePair given = .accepted range) :
    ∃ least greatest, given = .arr [least, greatest] ∧
      double least = .accepted range.1 ∧
      double greatest = .accepted range.2 := by
  cases given with
  | arr items =>
      simp only [doublePair] at accepted
      split at accepted
      case isTrue => cases accepted
      case isFalse short =>
        obtain ⟨_, high, made, second, rfl⟩ :=
          Checked.seq_eq_accepted_iff.mp accepted
        obtain ⟨low, first, rfl⟩ := Checked.map_eq_accepted_iff.mp made
        rcases items with _ | ⟨least, _ | ⟨greatest, _ | ⟨third, rest⟩⟩⟩
        · cases first
        · cases second
        · exact ⟨least, greatest, rfl, Checked.under_eq_accepted_iff.mp first,
            Checked.under_eq_accepted_iff.mp second⟩
        · simp at short
  | _ => cases accepted

/-- The range of amounts that an object states.  One end that is stated alone is
closed at zero or at the greatest amount, and a range that is stated as such
counts instead. -/
def statedRange? (fields : Fields) : Option Json :=
  match stated? "amount_between" fields, stated? "amount_min" fields,
    stated? "amount_max" fields with
  | some range, _, _ => some range
  | none, some least, some greatest => some (.arr [least, greatest])
  | none, some least, none =>
      some (.arr [least, .int Conditions.greatestAmount])
  | none, none, some greatest => some (.arr [.int 0, greatest])
  | none, none, none => none

namespace Conditions

section ClosedRange

variable (fields : Fields)

theorem lookUp_dropField_self (key : String) :
    Json.lookUp key (Json.dropField key fields) = none := by
  rw [lookUp_eq_none_iff, Json.dropField]
  intro member
  obtain ⟨field, kept, same⟩ := List.mem_map.mp member
  have apart := (List.mem_filter.mp kept).2
  simp [same] at apart

private theorem lookUp_end_withClosedRange {name : String}
    (isEnd : name = "amount_min" ∨ name = "amount_max") :
    Json.lookUp name (withClosedRange fields) = none := by
  have apart : name ≠ "amount_between" := by
    rcases isEnd with rfl | rfl <;> decide
  have dropped : Json.lookUp name
      (Json.dropField "amount_max" (Json.dropField "amount_min" fields)) =
        none := by
    rcases isEnd with rfl | rfl
    · rw [lookUp_dropField_of_ne (by decide), lookUp_dropField_self]
    · rw [lookUp_dropField_self]
  unfold withClosedRange
  dsimp only
  split
  case isTrue absent =>
    rw [Bool.and_eq_true, Option.isNone_iff_eq_none, Option.isNone_iff_eq_none]
      at absent
    rcases isEnd with rfl | rfl
    · exact absent.1
    · exact absent.2
  case isFalse =>
    split
    · rw [Json.lookUp_setField_of_ne apart, dropped]
    · exact dropped

private theorem closedRange_eq (floor ceiling : Json) :
    closedRange floor ceiling =
      match nonNull? floor, nonNull? ceiling with
      | some least, some greatest => some (least, greatest)
      | some least, none => some (least, .int greatestAmount)
      | none, some greatest => some (.int 0, greatest)
      | none, none => none := by
  cases floor <;> cases ceiling <;> rfl

theorem nonNull?_getD (value? : Option Json) :
    nonNull? (value?.getD .null) = value?.bind nonNull? := by
  cases value? <;> rfl

private theorem stated?_amountBetween_withClosedRange :
    stated? "amount_between" (withClosedRange fields) =
      statedRange? fields := by
  have dropped : Json.lookUp "amount_between"
      (Json.dropField "amount_max" (Json.dropField "amount_min" fields)) =
        Json.lookUp "amount_between" fields := by
    rw [lookUp_dropField_of_ne (by decide), lookUp_dropField_of_ne (by decide)]
  unfold withClosedRange
  dsimp only
  split
  case isTrue absent =>
    rw [Bool.and_eq_true, Option.isNone_iff_eq_none, Option.isNone_iff_eq_none]
      at absent
    have least : stated? "amount_min" fields = none := by
      rw [stated?, absent.1]; rfl
    have greatest : stated? "amount_max" fields = none := by
      rw [stated?, absent.2]; rfl
    rw [statedRange?, least, greatest]
    cases stated? "amount_between" fields <;> rfl
  case isFalse =>
    rw [dropped]
    split
    case h_1 noRange =>
      have unstated : stated? "amount_between" fields = none := by
        rw [stated?, ← nonNull?_getD, noRange]
        rfl
      rw [stated?, Json.lookUp_setField, closedRange_eq, nonNull?_getD,
        nonNull?_getD, statedRange?, unstated]
      cases least : stated? "amount_min" fields <;>
        cases greatest : stated? "amount_max" fields <;>
        rw [stated?] at least greatest <;> rw [least, greatest] <;> rfl
    case h_2 given =>
      cases found : Json.lookUp "amount_between" fields with
      | none => exact (given (by rw [found]; rfl)).elim
      | some range =>
          have stated : stated? "amount_between" fields = some range := by
            rw [stated?, found]
            cases range with
            | null => exact (given (by rw [found]; rfl)).elim
            | _ => rfl
          rw [stated?, dropped, ← stated?, statedRange?, stated]

end ClosedRange

/-- The fields of conditions are what the checks of an object's fields read. -/
structure Reads (fields : Fields) (conditions : Conditions) : Prop where
  known : ∀ name ∉ "amount_min" :: "amount_max" :: names,
    Json.lookUp name fields = none
  rawTextContains :
    ReadsAs (list text) (stated? "raw_text_contains" fields)
      conditions.rawTextContains
  descriptionContains :
    ReadsAs (list text) (stated? "description_contains" fields)
      conditions.descriptionContains
  descriptionPattern :
    ReadsAs pattern (stated? "description_regex" fields)
      conditions.descriptionPattern
  amountBetween : ReadsAs orderedPair (statedRange? fields)
    conditions.amountBetween
  amountEquals : ReadsAs double (stated? "amount_equals" fields)
    conditions.amountEquals
  source : ReadsAs (list text) (stated? "source" fields) conditions.source
  type : ReadsAs (oneOf transactionTypes) (stated? "type" fields)
    conditions.type
  fromAccount : ReadsAs text (stated? "from_account" fields)
    conditions.fromAccount
  toAccount : ReadsAs text (stated? "to_account" fields) conditions.toAccount
  category : ReadsAs text (stated? "category" fields) conditions.category

section Reads

variable {fields : Fields} {conditions : Conditions}

private theorem optional_withClosedRange_eq_accepted_iff {Value : Type}
    {name : String} {check : Check Value} {value? : Option Value}
    (least : name ≠ "amount_min") (greatest : name ≠ "amount_max")
    (range : name ≠ "amount_between") :
    optional (withClosedRange fields) name check = .accepted value? ↔
      ReadsAs check (stated? name fields) value? := by
  rw [optional_eq_accepted_iff,
    stated?_congr (lookUp_withClosedRange least greatest range fields)]

theorem unknownFields_withClosedRange_eq_nil_iff :
    unknownFields names (withClosedRange fields) = [] ↔
      ∀ name ∉ "amount_min" :: "amount_max" :: names, Json.lookUp name fields =
        none := by
  have betweenKnown : "amount_between" ∈ names := by decide
  rw [unknownFields_eq_nil_iff]
  constructor
  · intro absent name unknown
    rw [List.mem_cons, List.mem_cons, not_or, not_or] at unknown
    obtain ⟨least, greatest, unknown⟩ := unknown
    have apart : name ≠ "amount_between" := fun same =>
      unknown (same ▸ betweenKnown)
    rw [← lookUp_withClosedRange least greatest apart]
    exact absent name unknown
  · intro absent name unknown
    by_cases isEnd : name = "amount_min" ∨ name = "amount_max"
    · exact lookUp_end_withClosedRange fields isEnd
    · obtain ⟨least, greatest⟩ := not_or.mp isEnd
      have apart : name ≠ "amount_between" := fun same =>
        unknown (same ▸ betweenKnown)
      rw [lookUp_withClosedRange least greatest apart]
      apply absent
      simp only [List.mem_cons, not_or]
      exact ⟨least, greatest, unknown⟩

/-- Conditions are accepted when the names are known and what is stated is
read. -/
theorem checkFields_eq_accepted_iff :
    checkFields fields = .accepted conditions ↔ Reads fields conditions := by
  have range : ∀ {range? : Option (Double × Double)},
      optional (withClosedRange fields) "amount_between" orderedPair =
        .accepted range? ↔
        ReadsAs orderedPair (statedRange? fields) range? := by
    intro range?
    rw [optional_eq_accepted_iff, stated?_amountBetween_withClosedRange]
  have others :
      ∀ {Value : Type} {name : String} {check : Check Value}
      {value? : Option Value},
      name ≠ "amount_min" ∧ name ≠ "amount_max" ∧ name ≠ "amount_between" →
        (optional (withClosedRange fields) name check = .accepted value? ↔
          ReadsAs check (stated? name fields) value?) :=
    fun apart => optional_withClosedRange_eq_accepted_iff apart.1 apart.2.1
      apart.2.2
  constructor
  · intro accepted
    obtain ⟨checked, known⟩ := Checked.alsoReporting_eq_accepted_iff.mp accepted
    simp only [Checked.seq_eq_accepted_iff, Checked.map_eq_accepted_iff]
      at checked
    obtain ⟨_, _, ⟨_, _, ⟨_, _, ⟨_, _, ⟨_, _, ⟨_, _, ⟨_, _, ⟨_, _, ⟨_, _,
      ⟨_, rawTextContains, rfl⟩, descriptionContains, rfl⟩, descriptionPattern,
        rfl⟩,
      amountBetween, rfl⟩, amountEquals, rfl⟩, source, rfl⟩, type, rfl⟩,
        fromAccount, rfl⟩,
      toAccount, rfl⟩, category, rfl⟩ := checked
    exact {
      known := unknownFields_withClosedRange_eq_nil_iff.mp known
      rawTextContains := (others (by decide)).mp rawTextContains
      descriptionContains := (others (by decide)).mp descriptionContains
      descriptionPattern := (others (by decide)).mp descriptionPattern
      amountBetween := range.mp amountBetween
      amountEquals := (others (by decide)).mp amountEquals
      source := (others (by decide)).mp source
      type := (others (by decide)).mp type
      fromAccount := (others (by decide)).mp fromAccount
      toAccount := (others (by decide)).mp toAccount
      category := (others (by decide)).mp category }
  · intro reads
    rw [checkFields]
    simp only [(others (by decide)).mpr reads.rawTextContains,
      (others (by decide)).mpr reads.descriptionContains,
      (others (by decide)).mpr reads.descriptionPattern,
      range.mpr reads.amountBetween,
      (others (by decide)).mpr reads.amountEquals,
      (others (by decide)).mpr reads.source,
      (others (by decide)).mpr reads.type,
      (others (by decide)).mpr reads.fromAccount,
      (others (by decide)).mpr reads.toAccount,
      (others (by decide)).mpr reads.category,
      unknownFields_withClosedRange_eq_nil_iff.mpr reads.known]
    rfl

end Reads

end Conditions

end Payload

end LedgerRules
