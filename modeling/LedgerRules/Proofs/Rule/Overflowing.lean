import LedgerRules.Proofs.Outcomes
import LedgerRules.Rule.Stored

/-!
# Rules whose pattern overflows

Of all the checks that a stored rule is put through, only the one of its pattern
can overflow.  So compiling a rule overflows exactly when its kind and its logic
are known and its conditions name a pattern that is beyond all bounds: a number
in it is too large, or its parts are nested too deeply.  How deep is too deep is
nowhere asked.
-/

namespace LedgerRules

namespace Payload

/-- A check that accepts or rejects whatever it is given. -/
def Decisive {Value : Type} (check : Check Value) : Prop :=
  ∀ value, check value ≠ .overflowed

section Decisive

variable {Value : Type} {check : Check Value}

theorem decisive_text : Decisive text := by
  intro value overflowed
  cases value <;> cases overflowed

theorem decisive_oneOf (options : List String) : Decisive (oneOf options) := by
  intro value overflowed
  cases value with
  | str option =>
      simp only [oneOf] at overflowed
      split at overflowed <;> cases overflowed
  | _ => cases overflowed

theorem decisive_bool : Decisive bool := by
  have whole : ∀ number : Int, boolOfInt number ≠ .overflowed := by
    intro number
    unfold boolOfInt
    split
    · nofun
    · split <;> nofun
  intro value
  cases value with
  | bool flag => nofun
  | int number =>
      simp only [bool]
      split
      · exact whole number
      · nofun
  | float number =>
      simp only [bool]
      split
      · exact whole _
      · nofun
  | str word =>
      simp only [bool]
      split
      · nofun
      · split <;> nofun
  | _ => nofun

theorem decisive_double : Decisive double := by
  intro value
  cases value with
  | int number =>
      simp only [double]
      split <;> nofun
  | str word =>
      simp only [double, doubleOfText]
      split <;> nofun
  | _ => nofun

theorem decisive_list (decisive : Decisive check) : Decisive (list check) := by
  have items : ∀ (values : List Json) (index : Nat),
      checkItems check index values ≠ .overflowed := by
    intro values
    induction values with
    | nil => nofun
    | cons value rest induction =>
        intro index overflowed
        rcases Checked.seq_eq_overflowed_iff.mp overflowed with first | later
        · exact decisive value
            (Checked.under_eq_overflowed_iff.mp
              (Checked.map_eq_overflowed_iff.mp first))
        · exact induction (index + 1) later
  intro value
  cases value with
  | arr values => exact items values 0
  | _ => nofun

private theorem decisive_nullable (decisive : Decisive check) :
    Decisive (nullable check) := by
  intro value overflowed
  unfold nullable at overflowed
  split at overflowed
  · cases overflowed
  · exact decisive value (Checked.map_eq_overflowed_iff.mp overflowed)

theorem decisive_doublePair : Decisive doublePair := by
  have item : ∀ item : Json, ∀ step : Step,
      (double item).under step ≠ .overflowed := by
    intro item step overflowed
    exact decisive_double item (Checked.under_eq_overflowed_iff.mp overflowed)
  intro value overflowed
  cases value with
  | arr items =>
      simp only [doublePair] at overflowed
      split at overflowed
      case isTrue => cases overflowed
      case isFalse =>
        rcases Checked.seq_eq_overflowed_iff.mp overflowed with first | second
        · have checked := Checked.map_eq_overflowed_iff.mp first
          split at checked
          · exact item _ _ checked
          · cases checked
        · split at second
          · exact item _ _ second
          · cases second
  | _ => cases overflowed

private theorem decisive_orderedPair : Decisive Conditions.orderedPair := by
  intro value overflowed
  unfold Conditions.orderedPair at overflowed
  cases checked : doublePair value with
  | accepted range =>
      rw [checked] at overflowed
      unfold Checked.andThen at overflowed
      dsimp only at overflowed
      split at overflowed <;> cases overflowed
  | rejected problems =>
      rw [checked] at overflowed
      cases overflowed
  | overflowed => exact decisive_doublePair value checked

theorem optional_ne_overflowed (decisive : Decisive check) (fields : Fields)
    (name : String) :
    optional fields name check ≠ .overflowed := by
  intro overflowed
  unfold optional defaulted at overflowed
  split at overflowed
  · exact decisive_nullable decisive _
      (Checked.under_eq_overflowed_iff.mp overflowed)
  · cases overflowed

private theorem actions_check_ne_overflowed (value : Json) :
    Actions.check .storage value ≠ .overflowed := by
  intro overflowed
  cases value with
  | obj fields =>
      change Actions.checkFields fields = .overflowed at overflowed
      simp only [Actions.checkFields, Checked.alsoReporting_eq_overflowed_iff,
        Checked.seq_eq_overflowed_iff, Checked.map_eq_overflowed_iff,
        optional_ne_overflowed decisive_text,
          optional_ne_overflowed decisive_bool,
        optional_ne_overflowed (decisive_oneOf transactionTypes), or_self]
          at overflowed
  | _ => cases overflowed

end Decisive

/-- Reading a pattern is given up: a number in it is too large, or its parts are
nested too deeply. -/
inductive IsExcessive (pattern : String) : Prop where
  | number (parsed : Pattern.parse pattern = .error .tooLarge)
  | depth (parsed : Pattern.parse pattern = .error .tooDeep)

private theorem isExcessive_iff {pattern : String} :
    IsExcessive pattern ↔
      Pattern.parse pattern = .error .tooLarge ∨
      Pattern.parse pattern = .error .tooDeep := by
  constructor
  · intro excessive
    cases excessive with
    | number parsed => exact .inl parsed
    | depth parsed => exact .inr parsed
  · intro parsed
    exact parsed.elim .number .depth

theorem pattern_eq_overflowed_iff {value : Json} :
    Conditions.pattern value = .overflowed ↔
      ∃ pattern, value = .str pattern ∧ IsExcessive pattern := by
  simp only [isExcessive_iff]
  cases value with
  | str written =>
      cases parsed : Pattern.parse written with
      | ok pattern => simp [Conditions.pattern, text, Checked.andThen, parsed]
      | error fault =>
          cases fault <;>
          simp [Conditions.pattern, text, Checked.andThen, parsed,
            Checked.refuse]
  | _ => simp [Conditions.pattern, text, Checked.andThen, Checked.refuse]

theorem lookUp_dropField_of_ne {key other : String} (different : other ≠ key)
    (fields : Fields) :
    Json.lookUp other (Json.dropField key fields) =
      Json.lookUp other fields := by
  induction fields with
  | nil => rfl
  | cons field rest induction =>
      obtain ⟨name, value⟩ := field
      by_cases dropped : name = key
      · have apart : name ≠ other := fun same =>
          different (same.symm.trans dropped)
        rw [Json.dropField, List.filter_cons_of_neg (by simpa using dropped),
          Json.lookUp, if_neg apart]
        exact induction
      · rw [Json.dropField, List.filter_cons_of_pos (by simpa using dropped),
          Json.lookUp, Json.lookUp]
        split
        · rfl
        · exact induction

/-- Closing a range of amounts leaves the fields that say nothing about it. -/
theorem lookUp_withClosedRange {name : String} (least : name ≠ "amount_min")
    (greatest : name ≠ "amount_max") (range : name ≠ "amount_between")
    (fields : Fields) :
    Json.lookUp name (Conditions.withClosedRange fields) =
      Json.lookUp name fields := by
  unfold Conditions.withClosedRange
  dsimp only
  split
  · rfl
  · split
    · rw [Json.lookUp_setField_of_ne range, lookUp_dropField_of_ne greatest,
        lookUp_dropField_of_ne least]
    · rw [lookUp_dropField_of_ne greatest, lookUp_dropField_of_ne least]

/-- Fields that name a pattern beyond all bounds. -/
def NamesHugePattern (fields : Fields) : Prop :=
  ∃ pattern, Json.lookUp "description_regex" fields = some (.str pattern) ∧
    IsExcessive pattern

theorem optional_pattern_eq_overflowed_iff {fields : Fields} :
    optional fields "description_regex" Conditions.pattern = .overflowed ↔
      NamesHugePattern fields := by
  unfold optional defaulted NamesHugePattern
  cases found : Json.lookUp "description_regex" fields with
  | none => simp
  | some value =>
      dsimp only
      rw [Checked.under_eq_overflowed_iff]
      have given : nullable Conditions.pattern value = .overflowed ↔
          Conditions.pattern value = .overflowed := by
        unfold nullable
        split
        · simp [Conditions.pattern, text, Checked.refuse, Checked.andThen]
        · exact Checked.map_eq_overflowed_iff
      rw [given, pattern_eq_overflowed_iff]
      simp

theorem conditions_check_eq_overflowed_iff {value : Json} :
    Conditions.check .storage value = .overflowed ↔
      ∃ fields, value = .obj fields ∧ NamesHugePattern fields := by
  cases value with
  | obj fields =>
      have onlyPattern : Conditions.check .storage (.obj fields) = .overflowed ↔
          optional (Conditions.withClosedRange fields) "description_regex"
            Conditions.pattern =
            .overflowed := by
        change Conditions.checkFields fields = .overflowed ↔ _
        simp only [Conditions.checkFields,
          Checked.alsoReporting_eq_overflowed_iff,
          Checked.seq_eq_overflowed_iff, Checked.map_eq_overflowed_iff,
          optional_ne_overflowed decisive_text,
            optional_ne_overflowed decisive_double,
          optional_ne_overflowed decisive_orderedPair,
          optional_ne_overflowed (decisive_list decisive_text),
          optional_ne_overflowed (decisive_oneOf transactionTypes), or_false,
            false_or]
      rw [onlyPattern, optional_pattern_eq_overflowed_iff, NamesHugePattern,
        lookUp_withClosedRange (by decide) (by decide) (by decide)]
      simp [NamesHugePattern]
  | _ => simp [Conditions.check, model, Checked.refuse]

end Payload

namespace StoredRule

/-- A rule of a known kind and a known logic whose conditions name a pattern
beyond all bounds. -/
structure Overflows (stored : StoredRule) : Prop where
  kind : ∃ kind, RuleKind.ofText? stored.ruleType = some kind
  logic : ∃ logic, Logic.ofText? stored.logic = some logic
  pattern : ∃ fields, stored.conditions = .obj fields ∧
    Payload.NamesHugePattern fields

theorem compiled_eq_overflow_iff {Value : Type}
    {malformation : List Payload.Problem → Malformation}
    {checked : Payload.Checked Value} :
    compiled malformation checked = .error .overflow ↔
      checked = .overflowed := by
  cases checked <;> simp [compiled]

private theorem payload_namesHugePattern_iff {stored : Json} :
    (∃ fields, payload stored = .obj fields ∧ Payload.NamesHugePattern fields) ↔
      ∃ fields, stored = .obj fields ∧ Payload.NamesHugePattern fields := by
  unfold payload
  split
  case isTrue => rfl
  case isFalse falsy =>
    constructor
    · rintro ⟨_, ⟨⟩, _, found, _⟩
      cases found
    · rintro ⟨fields, rfl, huge⟩
      cases fields with
      | nil =>
          obtain ⟨_, found, _⟩ := huge
          cases found
      | cons field rest => exact (falsy rfl).elim

theorem compile_eq_overflow_iff {stored : StoredRule} :
    stored.compile = .error .overflow ↔ stored.Overflows := by
  cases kind : RuleKind.ofText? stored.ruleType with
  | none =>
      have malformed : stored.compile =
          .error (.malformed (.unknownType stored.ruleType)) := by
        simp only [compile, kind]
        rfl
      rw [malformed]
      constructor
      · nofun
      · rintro ⟨⟨_, found⟩, _, _⟩
        rw [kind] at found
        cases found
  | some known =>
      cases logic : Logic.ofText? stored.logic with
      | none =>
          have malformed : stored.compile =
              .error (.malformed (.unknownLogic stored.logic)) := by
            simp only [compile, kind, logic]
            rfl
          rw [malformed]
          constructor
          · nofun
          · rintro ⟨_, ⟨_, found⟩, _⟩
            rw [logic] at found
            cases found
      | some knownLogic =>
          have overflows : stored.compile = .error .overflow ↔
              Payload.Conditions.check .storage (payload stored.conditions) =
                .overflowed := by
            simp only [compile, kind, logic]
            rw [bind_eq_error_iff, compiled_eq_overflow_iff, or_iff_left]
            rintro ⟨conditions, _, failed⟩
            rcases bind_eq_error_iff.mp failed
              with overflowed | ⟨actions, _, made⟩
            · exact Payload.actions_check_ne_overflowed _
                (compiled_eq_overflow_iff.mp overflowed)
            · cases made
          rw [overflows, Payload.conditions_check_eq_overflowed_iff,
            payload_namesHugePattern_iff]
          constructor
          · intro pattern
            exact ⟨⟨known, kind⟩, ⟨knownLogic, logic⟩, pattern⟩
          · intro overflows
            exact overflows.pattern

end StoredRule

end LedgerRules
