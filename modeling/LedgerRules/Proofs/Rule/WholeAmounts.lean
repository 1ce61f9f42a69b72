import LedgerRules.Proofs.Rule.Reading

/-!
# Whole amounts

A condition on amounts that is stated in whole numbers of at most 53 bits is
exact.  The numbers are read as doubles, and these are compared as the decimals
with their shortest digits, but on the way nothing is lost: a rule with such a
condition matches exactly the candidates whose amount is the stated number, or
lies between the stated ends.
-/

namespace LedgerRules

namespace Decimal

variable {left right : Decimal} {number other : ℚ}

theorem atMost_of_value (value : left.value? = some number)
    (otherValue : right.value? = some other) :
    left.atMost right = .ok (decide (number ≤ other)) := by
  have inOrder := Extended.rational_strictMono.le_iff_le (a := number)
    (b := other)
  exact atMost_eq_ok_iff.mpr
    ⟨_, _, number?_of_value value,
      number?_of_value otherValue, by rw [decide_eq_true_iff, inOrder]⟩

theorem isSignalling_of_value (value : left.value? = some number) :
    left.isSignalling = false := by
  cases left with
  | nan negative signalling payload => cases value
  | _ => rfl

theorem equals_of_value (value : left.value? = some number)
    (otherValue : right.value? = some other) :
    left.equals right = .ok (decide (number = other)) := by
  rw [equals, isSignalling_of_value value, isSignalling_of_value otherValue,
    sameNumber, compare?_of_value value otherValue]
  simp

end Decimal

namespace Condition

section Answers

variable {candidate : Candidate} {amount : ℚ}

private theorem hold_singleton (logic : Logic) (condition : Condition) :
    hold logic [condition] candidate = condition.holds candidate := by
  rw [hold_eq_askInOrder (List.cons_ne_nil _ _), askInOrder, askInOrder]
  cases condition.holds candidate with
  | error fault => rfl
  | ok answer =>
      change (if answer = openAnswer logic then _ else _) = _
      split
      case isTrue same => rw [same]
      case isFalse => rfl

theorem holds_amountBetween {minimum maximum : Decimal} {least greatest : ℚ}
    (minimumValue : minimum.value? = some least)
    (maximumValue : maximum.value? = some greatest)
    (value : candidate.amount.value? = some amount) :
    (amountBetween minimum maximum).holds candidate =
      .ok (decide (least ≤ amount ∧ amount ≤ greatest)) := by
  rw [holds, Decimal.atMost_of_value minimumValue value,
    Decimal.atMost_of_value value maximumValue]
  by_cases reached : least ≤ amount
  · simp only [reached, decide_true, true_and]
    rfl
  · simp only [reached, decide_false, false_and]
    rfl

private theorem holds_amountEquals {named : Decimal} {number : ℚ}
    (namedValue : named.value? = some number)
    (value : candidate.amount.value? = some amount) :
    (amountEquals named).holds candidate = .ok (decide (amount = number)) :=
  Decimal.equals_of_value value namedValue

end Answers

end Condition

namespace Payload

/-- The names under which an object states something about amounts. -/
def amountNames : List String :=
  ["amount_between", "amount_equals", "amount_min", "amount_max"]

/-- An object states a value under one name about amounts, and nothing else. -/
structure StatesOnly (fields : Fields) (name : String)
    (value : Json) : Prop where
  isAmount : name ∈ amountNames
  stated : stated? name fields = some value
  others : ∀ other, other ≠ name → stated? other fields = none
  known : ∀ other ∉ "amount_min" :: "amount_max" :: Conditions.names,
    Json.lookUp other fields = none

/-- What a rule may keep of an object of conditions: the object as it was given,
or as it is written once it has been accepted. -/
inductive Kept (fields : Fields) : Json → Prop where
  | given : Kept fields (.obj fields)
  | written {origin : Origin} {conditions : Conditions}
      (accepted : Conditions.check origin (.obj fields) =
        .accepted conditions) :
      Kept fields (.obj (withoutNulls conditions.dump))

section StatesOnly

variable {fields : Fields} {name : String} {value : Json}

theorem statesOnly_singleton (isAmount : name ∈ amountNames)
    (notNull : nonNull? value = some value) :
    StatesOnly [(name, value)] name value where
  isAmount := isAmount
  stated := by
    rw [stated?, Json.lookUp, if_pos rfl]
    exact notNull
  others other apart := by
    rw [stated?, Json.lookUp, if_neg apart.symm]
    rfl
  known other unknown := by
    have isKnown : amountNames ⊆ "amount_min" :: "amount_max" ::
        Conditions.names := by decide
    have apart : name ≠ other := fun same => unknown (same ▸ isKnown isAmount)
    rw [Json.lookUp, if_neg apart]
    rfl

/-- An object that states something about amounts alone is read as that. -/
theorem StatesOnly.reads (only : StatesOnly fields name value)
    {range? : Option (Double × Double)} {number? : Option Double}
    (range : ReadsAs Conditions.orderedPair (statedRange? fields) range?)
    (number : ReadsAs double (stated? "amount_equals" fields) number?) :
    Conditions.Reads fields
      { amountBetween := range?, amountEquals := number? } := by
  have unstated : ∀ {Value : Type} {check : Check Value} {other : String},
      other ∉ amountNames → ReadsAs check (stated? other fields) none := by
    intro Value check other noAmount
    rw [only.others other fun same => noAmount (same ▸ only.isAmount)]
    exact .none
  exact {
    known := only.known
    rawTextContains := unstated (by decide)
    descriptionContains := unstated (by decide)
    descriptionPattern := unstated (by decide)
    amountBetween := range
    amountEquals := number
    source := unstated (by decide)
    type := unstated (by decide)
    fromAccount := unstated (by decide)
    toAccount := unstated (by decide)
    category := unstated (by decide) }

theorem orderedPair_ints {least greatest : ℤ} (leastSmall : |least| < 2 ^ 53)
    (greatestSmall : |greatest| < 2 ^ 53) (inOrder : least ≤ greatest) :
    Conditions.orderedPair (.arr [.int least, .int greatest]) =
      .accepted (.ofInt least, .ofInt greatest) := by
  refine Conditions.orderedPair_eq_accepted_iff.mpr
    ⟨?_, Double.exceeds_ofInt leastSmall greatestSmall inOrder⟩
  simp [doublePair, double_int leastSmall, double_int greatestSmall]
  rfl

end StatesOnly

end Payload

namespace StoredRule

open Payload (Conditions Fields StatesOnly Kept)

/-- An object of conditions asks something of the amounts of candidates, in a
rule that compiles.  The object is accepted wherever it comes from, and with
what the rule may keep of it the rule compiles, to one that differs in its
conditions alone and matches a candidate whose amount is a number exactly when
that number is asked for. -/
structure AsksAmount (stored : StoredRule) (rule : Rule) (fields : Fields)
    (asked : ℚ → Prop) [DecidablePred asked] : Prop where
  accepted : ∀ origin, ∃ conditions,
    Conditions.check origin (.obj fields) = .accepted conditions
  matched : ∀ kept, Kept fields kept → ∃ conditions,
    { stored with conditions := kept }.compile = .ok { rule with conditions } ∧
      ∀ candidate amount, candidate.amount.value? = some amount →
        Condition.hold rule.logic conditions candidate =
          .ok (decide (asked amount))

section Asked

variable {stored : StoredRule} {rule : Rule} {fields : Fields}
  {conditions : Conditions}

private theorem check_of_kept (reads : Conditions.Reads fields conditions)
    {kept : Json} (isKept : Kept fields kept) :
    Conditions.check .storage (payload kept) = .accepted conditions := by
  have accepted := Conditions.checkFields_eq_accepted_iff.mpr reads
  cases isKept with
  | given =>
      rw [payload_obj]
      exact accepted
  | @written origin read readAccepted =>
      have same : read = conditions :=
        Payload.Checked.accepted.inj (readAccepted.symm.trans accepted)
      rw [payload_obj, ← same]
      exact Conditions.check_dump (Conditions.lawful_of_check readAccepted) _

theorem asksAmount_of_reads {asked : ℚ → Prop} [DecidablePred asked]
    (compiled : stored.compile = .ok rule)
    (reads : Conditions.Reads fields conditions) {condition : Condition}
    (single : conditions.compile = [condition])
    (answered : ∀ (candidate : Candidate) (amount : ℚ),
      candidate.amount.value? = some amount →
      condition.holds candidate = .ok (decide (asked amount))) :
    AsksAmount stored rule fields asked where
  accepted _ := ⟨conditions, Conditions.checkFields_eq_accepted_iff.mpr reads⟩
  matched kept isKept := by
    obtain ⟨kind, logic, before, actions, isKind, isLogic, _, actionsAccepted,
      rfl⟩ :=
      compile_eq_ok_iff.mp compiled
    refine ⟨conditions.compile, compile_eq_ok_iff.mpr
      ⟨kind, logic, conditions, actions, isKind, isLogic,
        check_of_kept reads isKept, actionsAccepted, rfl⟩,
        fun candidate amount value => ?_⟩
    rw [single, Condition.hold_singleton]
    exact answered candidate amount value

private theorem asksAmount_of_number (compiled : stored.compile = .ok rule)
    {whole : ℤ} (only : StatesOnly fields "amount_equals" (.int whole))
    (small : |whole| < 2 ^ 53) :
    AsksAmount stored rule fields fun amount => amount = whole := by
  have reads : Conditions.Reads fields
      { amountBetween := none, amountEquals := some (.ofInt whole) } := by
    apply only.reads
    · rw [Payload.statedRange?, only.others _ (by decide),
        only.others _ (by decide), only.others _ (by decide)]
      exact .none
    · rw [only.stated]
      exact .some (Payload.double_int small)
  exact asksAmount_of_reads compiled reads rfl fun _ _ value =>
    Condition.holds_amountEquals (Decimal.value?_ofDouble_ofInt small) value

theorem asksAmount_of_range (compiled : stored.compile = .ok rule)
    {name : String} {value : Json} (only : StatesOnly fields name value)
    (noNumber : name ≠ "amount_equals") {least greatest : ℤ}
    (leastSmall : |least| < 2 ^ 53) (greatestSmall : |greatest| < 2 ^ 53)
    (inOrder : least ≤ greatest)
    (range : Payload.statedRange? fields =
      some (.arr [.int least, .int greatest])) :
    AsksAmount stored rule fields fun amount => least ≤ amount ∧
    amount ≤ greatest := by
  have reads : Conditions.Reads fields
      { amountBetween := some (.ofInt least, .ofInt greatest),
        amountEquals := none } := by
    apply only.reads
    · rw [range]
      exact .some (Payload.orderedPair_ints leastSmall greatestSmall inOrder)
    · rw [only.others _ noNumber.symm]
      exact .none
  exact asksAmount_of_reads compiled reads rfl fun _ _ value =>
    Condition.holds_amountBetween (Decimal.value?_ofDouble_ofInt leastSmall)
      (Decimal.value?_ofDouble_ofInt greatestSmall) value

end Asked

/-- Whatever rule keeps them, conditions on amounts in whole numbers up to the
greatest amount are accepted, compile and are exact: a number alone asks for the
amounts that are this number, a range for those from one end to the other, a
least amount for those from there to the greatest amount, and a greatest amount
that is not negative for those from zero to there. -/
theorem asks_whole_amounts {stored : StoredRule} {rule : Rule}
    (compiled : stored.compile = .ok rule) :
    (∀ (fields : Fields) (whole : ℤ), |whole| ≤ Conditions.greatestAmount →
      StatesOnly fields "amount_equals" (.int whole) →
        AsksAmount stored rule fields fun amount => amount = whole) ∧
    (∀ (fields : Fields) (least greatest : ℤ), |least| ≤
      Conditions.greatestAmount →
      |greatest| ≤ Conditions.greatestAmount → least ≤ greatest →
      StatesOnly fields "amount_between" (.arr [.int least, .int greatest]) →
        AsksAmount stored rule fields fun amount => least ≤ amount ∧
        amount ≤ greatest) ∧
    (∀ (fields : Fields) (least : ℤ), |least| ≤ Conditions.greatestAmount →
      StatesOnly fields "amount_min" (.int least) →
        AsksAmount stored rule fields fun amount =>
          least ≤ amount ∧ amount ≤ Conditions.greatestAmount) ∧
    (∀ (fields : Fields) (greatest : ℤ), 0 ≤ greatest →
      greatest ≤ Conditions.greatestAmount →
      StatesOnly fields "amount_max" (.int greatest) →
        AsksAmount stored rule fields fun amount => 0 ≤ amount ∧
        amount ≤ greatest) := by
  have bits : ∀ whole : ℤ, |whole| ≤ Conditions.greatestAmount →
      |whole| < 2 ^ 53 :=
    fun whole atMost => atMost.trans_lt (by decide)
  refine ⟨?_, ?_, ?_, ?_⟩
  · intro fields whole atMost only
    exact asksAmount_of_number compiled only (bits whole atMost)
  · intro fields least greatest leastAtMost greatestAtMost inOrder only
    refine asksAmount_of_range compiled only (by decide)
      (bits least leastAtMost)
      (bits greatest greatestAtMost) inOrder ?_
    rw [Payload.statedRange?, only.stated]
  · intro fields least atMost only
    refine asksAmount_of_range compiled only (by decide) (bits least atMost)
      (bits Conditions.greatestAmount (by decide))
        ((le_abs_self least).trans atMost) ?_
    rw [Payload.statedRange?, only.stated, only.others _ (by decide),
      only.others _ (by decide)]
  · intro fields greatest nonnegative atMost only
    have small := bits greatest ((abs_of_nonneg nonnegative).trans_le atMost)
    have ranged := asksAmount_of_range compiled only (by decide)
      (bits 0 (by decide)) small
      nonnegative (by
        rw [Payload.statedRange?, only.stated, only.others _ (by decide),
          only.others _ (by decide)])
    simpa using ranged

/-- A rule for rents, whatever their amounts. -/
def rent : StoredRule where
  id := "rent"
  name := "Rent"
  logic := "or"
  actions := .obj [("set_category", .str "housing")]

def compiledRent : Rule where
  id := "rent"
  name := "Rent"
  priority := 0
  kind := .general
  logic := .any
  conditions := []
  actions := [.setCategory "housing"]
  createdAt := none

/-- A candidate of 7.00. -/
def garageRent : Candidate where
  description := "Garage"
  amount := .finite false 700 (-2)

/-- A candidate of 7.01. -/
def dearerRent : Candidate where
  description := "Garage"
  amount := .finite false 701 (-2)

/-- Each kind of condition at an end of what is claimed for it, and a range
whose end is met by another text of the same number and missed by a
hundredth. -/
theorem asks_whole_amounts_rent :
    rent.compile = .ok compiledRent ∧
      (AsksAmount rent compiledRent [("amount_equals", .int 9007199254740991)]
        fun amount =>
        amount = (9007199254740991 : ℤ)) ∧
      (AsksAmount rent compiledRent [("amount_min", .int (-9007199254740991))]
        fun amount =>
        (-9007199254740991 : ℤ) ≤ amount ∧ amount ≤ Conditions.greatestAmount) ∧
      (AsksAmount rent compiledRent [("amount_max", .int 0)] fun amount =>
        0 ≤ amount ∧ amount ≤ (0 : ℤ)) ∧
      ∃ conditions,
        { rent with
          conditions := .obj [("amount_between", .arr [.int (-5), .int 7])] }.compile =
            .ok { compiledRent with conditions } ∧
          Condition.hold .any conditions garageRent = .ok true ∧
          Condition.hold .any conditions dearerRent = .ok false := by
  have compiled : rent.compile = .ok compiledRent := by decide +kernel
  obtain ⟨equals, between, least, greatest⟩ := asks_whole_amounts compiled
  have inRange := between _ (-5) 7 (by decide) (by decide) (by decide)
    (Payload.statesOnly_singleton (by decide) rfl)
  obtain ⟨conditions, ranged, matched⟩ := inRange.matched _ .given
  have garage := matched garageRent 7 (by norm_num [garageRent, Decimal.value?])
  have dearer := matched dearerRent (701 / 100)
    (by norm_num [dearerRent, Decimal.value?])
  refine ⟨compiled, equals _ _ (by decide)
    (Payload.statesOnly_singleton (by decide) rfl), least _ _ (by decide)
      (Payload.statesOnly_singleton (by decide) rfl),
    greatest _ 0 (by decide) (by decide)
      (Payload.statesOnly_singleton (by decide) rfl),
    conditions, ranged, ?_, ?_⟩
  · exact garage.trans (by norm_num)
  · exact dearer.trans (by norm_num)

end StoredRule

end LedgerRules
