import LedgerRules.Proofs.Number.Whole
import LedgerRules.Proofs.Payload.Rearranged
import LedgerRules.Proofs.Rule.Asking
import LedgerRules.Proofs.Rule.Breaking

/-!
# Conditions as they are stored

An object of conditions states predicates on candidates, one under each name
that it gives a value.  A rule that compiles matches exactly when all of the
predicates hold that its object states, or one of them, as its logic asks; a
rule whose object states none matches always.  The numbers of an object are
doubles, with the shortest digits that read back as them, which are the digits
of every number that has at most fifteen.
-/

namespace LedgerRules

namespace Decimal

theorem number?_eq_none_iff {decimal : Decimal} :
    decimal.number? = none ↔ decimal.isNaN = true := by
  cases decimal <;> simp [number?, value?, isNaN]

theorem compare?_eq_some_iff {left right : Decimal} {order : Ordering} :
    left.compare? right = some order ↔
      ∃ number other, left.number? = some number ∧ right.number? = some other ∧
        order = compare number other := by
  cases denotes : left.number? with
  | none =>
      rw [compare?_eq_none_iff.mpr (.inl (number?_eq_none_iff.mp denotes))]
      simp
  | some number =>
      cases otherDenotes : right.number? with
      | none =>
          rw [compare?_eq_none_iff.mpr
            (.inr (number?_eq_none_iff.mp otherDenotes))]
          simp
      | some other =>
          rw [compare?_of_number denotes otherDenotes]
          simp [eq_comm]

theorem atMost_eq_ok_iff {left right : Decimal} {answer : Bool} :
    left.atMost right = .ok answer ↔
      ∃ number other, left.number? = some number ∧ right.number? = some other ∧
        (answer = true ↔ number ≤ other) := by
  have compared : left.atMost right = .ok answer ↔
      ∃ order, left.compare? right = some order ∧
        (answer = true ↔ order ≠ .gt) := by
    unfold atMost
    cases left.compare? right with
    | none => simp
    | some order => cases answer <;> simp
  have notGreater : ∀ number other : Extended, compare number other ≠ .gt ↔
      number ≤ other :=
    fun number other => (not_congr compare_gt_iff_gt).trans not_lt
  rw [compared]
  constructor
  · rintro ⟨order, ordered, answered⟩
    obtain ⟨number, other, denotes, otherDenotes, rfl⟩ :=
      compare?_eq_some_iff.mp ordered
    exact ⟨number, other, denotes, otherDenotes,
      answered.trans (notGreater number other)⟩
  · rintro ⟨number, other, denotes, otherDenotes, answered⟩
    exact ⟨compare number other, compare?_of_number denotes otherDenotes,
      answered.trans (notGreater number other).symm⟩

private theorem sameNumber_iff {left right : Decimal} :
    left.sameNumber right = true ↔
      ∃ number, left.number? = some number ∧ right.number? = some number := by
  rw [sameNumber, decide_eq_true_eq, compare?_eq_some_iff]
  constructor
  · rintro ⟨number, other, denotes, otherDenotes, same⟩
    cases compare_eq_iff_eq.mp same.symm
    exact ⟨number, denotes, otherDenotes⟩
  · rintro ⟨number, denotes, otherDenotes⟩
    exact ⟨number, number, denotes, otherDenotes,
      (compare_eq_iff_eq.mpr rfl).symm⟩

end Decimal

/-- A text in which a term occurs, cases apart. -/
def Mentions (text term : String) : Prop :=
  foldList term.toList <:+: foldList text.toList

theorem occursIn_iff {part whole : List Char} :
    occursIn part whole = true ↔ part <:+: whole := by
  induction whole with
  | nil => simp [occursIn]
  | cons character rest induction =>
      rw [occursIn, Bool.or_eq_true, List.isPrefixOf_iff_prefix, induction,
        List.infix_cons_iff]

theorem containsAny_iff {text : String} {terms : List String} :
    containsAny text terms = true ↔ ∃ term ∈ terms, Mentions text term := by
  simp only [containsAny, List.any_eq_true, occursIn_iff, Mentions]

theorem mem_distinctSorted {sources : List String} {source : String} :
    source ∈ distinctSorted sources ↔ source ∈ sources := by
  rw [distinctSorted, List.mem_mergeSort, List.mem_eraseDups]

namespace Payload

/-- A value of a payload stands for the number of the double that it is read as,
with the shortest digits of that double. -/
def Denotes (value : Json) (number : Extended) : Prop :=
  ∃ double, Payload.double value = .accepted double ∧
    (Decimal.ofDouble double).number? = some number

/-- The predicates on candidates that an object of conditions states. -/
inductive States (fields : Fields) : (Candidate → Prop) → Prop where
  | rawTextContains {terms : List Json}
      (stated : stated? "raw_text_contains" fields = some (.arr terms)) :
      States fields fun candidate =>
        ∃ text ∈ candidate.rawText, ∃ term, .str term ∈ terms ∧
          Mentions text term
  | descriptionContains {terms : List Json}
      (stated : stated? "description_contains" fields = some (.arr terms)) :
      States fields fun candidate =>
        ∃ term, .str term ∈ terms ∧
          Mentions (candidate.description.getD "") term
  | descriptionMatches {text : String} {pattern : Pattern}
      (stated : stated? "description_regex" fields = some (.str text))
      (parsed : Pattern.parse text = .ok pattern) :
      States fields fun candidate =>
        pattern.foundIn (candidate.description.getD "") = true
  | amountBetween {low high : Json}
      (stated : statedRange? fields = some (.arr [low, high])) :
      States fields fun candidate =>
        ∃ least greatest amount, Denotes low least ∧ Denotes high greatest ∧
          candidate.amount.number? = some amount ∧ least ≤ amount ∧
          amount ≤ greatest
  | amountEquals {value : Json}
      (stated : stated? "amount_equals" fields = some value) :
      States fields fun candidate =>
        ∃ number, Denotes value number ∧ candidate.amount.number? = some number
  | source {sources : List Json}
      (stated : stated? "source" fields = some (.arr sources)) :
      States fields fun candidate => .str candidate.source ∈ sources
  | type {name : String} (stated : stated? "type" fields = some (.str name)) :
      States fields fun candidate => candidate.type = name
  | fromAccount {accountId : String}
      (stated : stated? "from_account" fields = some (.str accountId)) :
      States fields fun candidate => candidate.accountId = some accountId
  | toAccount {accountId : String}
      (stated : stated? "to_account" fields = some (.str accountId)) :
      States fields fun candidate => candidate.transferTo = some accountId
  | category {categoryId : String}
      (stated : stated? "category" fields = some (.str categoryId)) :
      States fields fun candidate => candidate.categoryId = some categoryId

/-- Whether an object of conditions matches a candidate under a logic.  An
object that states nothing matches always. -/
def Matches (fields : Fields) (candidate : Candidate) : Logic → Prop
  | .all => ∀ predicate, States fields predicate → predicate candidate
  | .any =>
      (∃ predicate, States fields predicate) →
        ∃ predicate, States fields predicate ∧ predicate candidate

/-- Whenever a condition is answered, it answers whether a predicate holds. -/
def Expresses (condition : Condition) (predicate : Candidate → Prop) : Prop :=
  ∀ candidate answer, condition.holds candidate = .ok answer →
    (answer = true ↔ predicate candidate)

theorem expresses_of_holds {condition : Condition}
    {predicate : Candidate → Prop} {answer : Candidate → Bool}
    (holds : ∀ candidate, condition.holds candidate = .ok (answer candidate))
    (decides : ∀ candidate, answer candidate = true ↔ predicate candidate) :
    Expresses condition predicate := by
  intro candidate given answered
  rw [holds] at answered
  cases answered
  exact decides candidate

theorem expresses_of_decides {condition : Condition}
    {predicate : Candidate → Prop} [DecidablePred predicate]
    (holds : ∀ candidate,
      condition.holds candidate = .ok (decide (predicate candidate))) :
    Expresses condition predicate :=
  expresses_of_holds holds fun _ => decide_eq_true_iff

theorem denotes_iff {value : Json} {double : Double}
    (read : Payload.double value = .accepted double) {number : Extended} :
    Denotes value number ↔ (Decimal.ofDouble double).number? = some number := by
  constructor
  · rintro ⟨other, otherRead, denotes⟩
    rw [read] at otherRead
    cases otherRead
    exact denotes
  · intro denotes
    exact ⟨double, read, denotes⟩

/-- A value that is read as the double nearest to a number of at most fifteen
digits stands for that number. -/
theorem denotes_of_isShort {value : Json} {amount : Decimal}
    (short : amount.IsShort) (read : double value = .accepted amount.toDouble)
    {number : Extended} :
    Denotes value number ↔ amount.number? = some number := by
  rw [denotes_iff read, Decimal.number?_ofDouble_toDouble short]

/-- A whole number of at most 53 bits is read as its double. -/
theorem double_int {whole : ℤ} (small : |whole| < 2 ^ 53) :
    double (.int whole) = .accepted (.ofInt whole) :=
  if_pos (Double.isFinite_ofInt small)

/-- A whole number of at most fifteen digits stands for itself. -/
theorem denotes_int {whole : ℤ} (small : |whole| < 10 ^ 15)
    {number : Extended} :
    Denotes (.int whole) number ↔ number = .rational whole := by
  have bits : |whole| < 2 ^ 53 := small.trans (by norm_num)
  rw [denotes_iff (double_int bits), Decimal.number?_of_value
    (Decimal.value?_ofDouble_ofInt bits), Option.some.injEq, eq_comm]

theorem expresses_rawTextContains (terms : List String) :
    Expresses (.rawTextContains terms) fun candidate =>
      ∃ text ∈ candidate.rawText, ∃ term, .str term ∈ terms.map Json.str ∧
        Mentions text term := by
  refine expresses_of_holds (fun _ => rfl) fun candidate => ?_
  cases candidate.rawText with
  | none => simp
  | some text => simp [containsAny_iff]

theorem expresses_descriptionContains (terms : List String) :
    Expresses (.descriptionContains terms) fun candidate =>
      ∃ term, .str term ∈ terms.map Json.str ∧
        Mentions (candidate.description.getD "") term := by
  refine expresses_of_holds (fun _ => rfl) fun candidate => ?_
  simp [containsAny_iff]

theorem expresses_amountBetween {low high : Json} {range : Double × Double}
    (lowRead : double low = .accepted range.1)
    (highRead : double high = .accepted range.2) :
    Expresses (.amountBetween (.ofDouble range.1) (.ofDouble range.2))
      fun candidate =>
      ∃ least greatest amount, Denotes low least ∧ Denotes high greatest ∧
        candidate.amount.number? = some amount ∧ least ≤ amount ∧
        amount ≤ greatest := by
  intro candidate answer answered
  simp only [denotes_iff lowRead, denotes_iff highRead]
  obtain ⟨reached, asked, answered⟩ := bind_eq_ok_iff.mp answered
  obtain ⟨least, amount, leastDenotes, amountDenotes, reaches⟩ :=
    Decimal.atMost_eq_ok_iff.mp asked
  cases reached with
  | false =>
      cases answered
      constructor
      · nofun
      · rintro ⟨other, _, otherAmount, otherDenotes, _, otherAmountDenotes,
          inOrder, _⟩
        rw [leastDenotes] at otherDenotes
        rw [amountDenotes] at otherAmountDenotes
        cases otherDenotes
        cases otherAmountDenotes
        exact reaches.mpr inOrder
  | true =>
      obtain ⟨sameAmount, greatest, sameDenotes, greatestDenotes, stays⟩ :=
        Decimal.atMost_eq_ok_iff.mp answered
      rw [amountDenotes] at sameDenotes
      cases sameDenotes
      constructor
      · intro holds
        exact ⟨least, greatest, amount, leastDenotes, greatestDenotes,
          amountDenotes, reaches.mp rfl, stays.mp holds⟩
      · rintro ⟨_, other, otherAmount, _, otherDenotes, otherAmountDenotes, _,
          inOrder⟩
        rw [greatestDenotes] at otherDenotes
        rw [amountDenotes] at otherAmountDenotes
        cases otherDenotes
        cases otherAmountDenotes
        exact stays.mpr inOrder

theorem expresses_amountEquals {value : Json} {read : Double}
    (valueRead : double value = .accepted read) :
    Expresses (.amountEquals (.ofDouble read)) fun candidate =>
      ∃ number, Denotes value number ∧
        candidate.amount.number? = some number := by
  intro candidate answer answered
  simp only [denotes_iff valueRead]
  change Decimal.equals _ _ = _ at answered
  unfold Decimal.equals at answered
  split at answered
  case isTrue => cases answered
  case isFalse =>
    cases answered
    rw [Decimal.sameNumber_iff]
    exact exists_congr fun _ => and_comm

theorem expresses_sourceIn (sources : List String) :
    Expresses (.sourceIn (distinctSorted sources)) fun candidate =>
      .str candidate.source ∈ sources.map Json.str := by
  refine expresses_of_holds (fun _ => rfl) fun candidate => ?_
  simp [mem_distinctSorted]

section Reads

variable {fields : Fields} {conditions : Conditions}

theorem exists_states_of_mem (reads : Conditions.Reads fields conditions)
    {condition : Condition} (member : condition ∈ conditions.compile) :
    ∃ predicate, States fields predicate ∧ Expresses condition predicate := by
  cases Conditions.mem_compile_iff.mp member with
  | @rawTextContains terms read =>
      obtain ⟨given, stated, accepted⟩ :=
        reads.rawTextContains.exists_given read
      cases list_text_eq_accepted_iff.mp accepted
      exact ⟨_, .rawTextContains stated, expresses_rawTextContains terms⟩
  | @descriptionContains terms read =>
      obtain ⟨given, stated, accepted⟩ := reads.descriptionContains.exists_given
        read
      cases list_text_eq_accepted_iff.mp accepted
      exact ⟨_, .descriptionContains stated,
        expresses_descriptionContains terms⟩
  | @descriptionMatches pattern read =>
      obtain ⟨given, stated, accepted⟩ := reads.descriptionPattern.exists_given
        read
      obtain ⟨written, rfl, parsed⟩ := pattern_eq_accepted_iff.mp accepted
      exact ⟨_, .descriptionMatches stated parsed,
        expresses_of_holds (fun _ => rfl) fun _ => Iff.rfl⟩
  | @amountBetween range read =>
      obtain ⟨given, stated, accepted⟩ := reads.amountBetween.exists_given read
      obtain ⟨low, high, rfl, lowRead, highRead⟩ :=
        eq_pair_of_doublePair
          (Conditions.orderedPair_eq_accepted_iff.mp accepted).1
      exact ⟨_, .amountBetween stated, expresses_amountBetween lowRead highRead⟩
  | @amountEquals value read =>
      obtain ⟨given, stated, accepted⟩ := reads.amountEquals.exists_given read
      exact ⟨_, .amountEquals stated, expresses_amountEquals accepted⟩
  | @sourceIn sources read =>
      obtain ⟨given, stated, accepted⟩ := reads.source.exists_given read
      cases list_text_eq_accepted_iff.mp accepted
      exact ⟨_, .source stated, expresses_sourceIn sources⟩
  | @typeIs type read =>
      obtain ⟨given, stated, accepted⟩ := reads.type.exists_given read
      cases eq_str_of_oneOf accepted
      exact ⟨_, .type stated, expresses_of_decides fun _ => rfl⟩
  | @fromAccount accountId read =>
      obtain ⟨given, stated, accepted⟩ := reads.fromAccount.exists_given read
      cases text_eq_accepted_iff.mp accepted
      exact ⟨_, .fromAccount stated, expresses_of_decides fun _ => rfl⟩
  | @toAccount accountId read =>
      obtain ⟨given, stated, accepted⟩ := reads.toAccount.exists_given read
      cases text_eq_accepted_iff.mp accepted
      exact ⟨_, .toAccount stated, expresses_of_decides fun _ => rfl⟩
  | @categoryIs categoryId read =>
      obtain ⟨given, stated, accepted⟩ := reads.category.exists_given read
      cases text_eq_accepted_iff.mp accepted
      exact ⟨_, .category stated, expresses_of_decides fun _ => rfl⟩

theorem exists_mem_of_states (reads : Conditions.Reads fields conditions)
    {predicate : Candidate → Prop} (states : States fields predicate) :
    ∃ condition ∈ conditions.compile, Expresses condition predicate := by
  cases states with
  | rawTextContains stated =>
      obtain ⟨terms, read, accepted⟩ := reads.rawTextContains.exists_read stated
      cases list_text_eq_accepted_iff.mp accepted
      exact ⟨_, Conditions.mem_compile_iff.mpr (.rawTextContains read),
        expresses_rawTextContains terms⟩
  | descriptionContains stated =>
      obtain ⟨terms, read, accepted⟩ := reads.descriptionContains.exists_read
        stated
      cases list_text_eq_accepted_iff.mp accepted
      exact ⟨_, Conditions.mem_compile_iff.mpr (.descriptionContains read),
        expresses_descriptionContains terms⟩
  | descriptionMatches stated parsed =>
      obtain ⟨pattern, read, accepted⟩ :=
        reads.descriptionPattern.exists_read stated
      obtain ⟨written, same, parsedSame⟩ := pattern_eq_accepted_iff.mp accepted
      cases same
      cases parsed.symm.trans parsedSame
      exact ⟨_, Conditions.mem_compile_iff.mpr (.descriptionMatches read),
        expresses_of_holds (fun _ => rfl) fun _ => Iff.rfl⟩
  | amountBetween stated =>
      obtain ⟨range, read, accepted⟩ := reads.amountBetween.exists_read stated
      obtain ⟨low, high, same, lowRead, highRead⟩ :=
        eq_pair_of_doublePair
          (Conditions.orderedPair_eq_accepted_iff.mp accepted).1
      cases same
      exact ⟨_, Conditions.mem_compile_iff.mpr (.amountBetween read),
        expresses_amountBetween lowRead highRead⟩
  | amountEquals stated =>
      obtain ⟨value, read, accepted⟩ := reads.amountEquals.exists_read stated
      exact ⟨_, Conditions.mem_compile_iff.mpr (.amountEquals read),
        expresses_amountEquals accepted⟩
  | source stated =>
      obtain ⟨sources, read, accepted⟩ := reads.source.exists_read stated
      cases list_text_eq_accepted_iff.mp accepted
      exact ⟨_, Conditions.mem_compile_iff.mpr (.sourceIn read),
        expresses_sourceIn sources⟩
  | type stated =>
      obtain ⟨type, read, accepted⟩ := reads.type.exists_read stated
      cases eq_str_of_oneOf accepted
      exact ⟨_, Conditions.mem_compile_iff.mpr (.typeIs read),
        expresses_of_decides fun _ => rfl⟩
  | fromAccount stated =>
      obtain ⟨accountId, read, accepted⟩ := reads.fromAccount.exists_read stated
      cases text_eq_accepted_iff.mp accepted
      exact ⟨_, Conditions.mem_compile_iff.mpr (.fromAccount read),
        expresses_of_decides fun _ => rfl⟩
  | toAccount stated =>
      obtain ⟨accountId, read, accepted⟩ := reads.toAccount.exists_read stated
      cases text_eq_accepted_iff.mp accepted
      exact ⟨_, Conditions.mem_compile_iff.mpr (.toAccount read),
        expresses_of_decides fun _ => rfl⟩
  | category stated =>
      obtain ⟨categoryId, read, accepted⟩ := reads.category.exists_read stated
      cases text_eq_accepted_iff.mp accepted
      exact ⟨_, Conditions.mem_compile_iff.mpr (.categoryIs read),
        expresses_of_decides fun _ => rfl⟩

end Reads

section Matches

variable {fields : Fields} {conditions : Conditions} {candidate : Candidate}

theorem compile_eq_nil_iff (reads : Conditions.Reads fields conditions) :
    conditions.compile = [] ↔ ¬ ∃ predicate, States fields predicate := by
  constructor
  · rintro empty ⟨predicate, states⟩
    obtain ⟨condition, member, _⟩ := exists_mem_of_states reads states
    rw [empty] at member
    cases member
  · intro nothing
    by_contra nonempty
    obtain ⟨condition, member⟩ := List.exists_mem_of_ne_nil _ nonempty
    obtain ⟨predicate, states, _⟩ := exists_states_of_mem reads member
    exact nothing ⟨predicate, states⟩

theorem exists_states_of_held (reads : Conditions.Reads fields conditions)
    {answer : Bool}
    (held : ∃ condition ∈ conditions.compile,
      condition.holds candidate = .ok answer) :
    ∃ predicate, States fields predicate ∧
      (answer = true ↔ predicate candidate) := by
  obtain ⟨condition, member, held⟩ := held
  obtain ⟨predicate, states, expresses⟩ := exists_states_of_mem reads member
  exact ⟨predicate, states, expresses candidate answer held⟩

theorem iff_of_all_held (reads : Conditions.Reads fields conditions)
    {answer : Bool}
    (held : ∀ condition ∈ conditions.compile,
      condition.holds candidate = .ok answer)
    {predicate : Candidate → Prop} (states : States fields predicate) :
    answer = true ↔ predicate candidate := by
  obtain ⟨condition, member, expresses⟩ := exists_mem_of_states reads states
  exact expresses candidate answer (held condition member)

/-- When the conditions of a payload have an outcome together, it is whether the
object of the payload matches. -/
theorem matches_of_hold (reads : Conditions.Reads fields conditions)
    {logic : Logic} {answer : Bool}
    (held : Condition.hold logic conditions.compile candidate = .ok answer) :
    answer = true ↔ Matches fields candidate logic := by
  by_cases empty : conditions.compile = []
  · have nothing := (compile_eq_nil_iff reads).mp empty
    rw [empty] at held
    cases held
    refine iff_of_true rfl ?_
    cases logic with
    | all => exact fun predicate states => (nothing ⟨predicate, states⟩).elim
    | any => exact fun stated => (nothing stated).elim
  · have stated : ∃ predicate, States fields predicate :=
      not_not.mp ((compile_eq_nil_iff reads).not.mp empty)
    rw [Condition.hold_eq_askInOrder empty] at held
    -- the answer that settles a logic comes from one condition, the other one
    -- from all of them
    cases logic with
    | all =>
        cases answer with
        | true =>
            have all := Condition.askInOrder_eq_unsettled_iff.mp held
            exact iff_of_true rfl fun predicate states =>
              (iff_of_all_held reads all states).mp rfl
        | false =>
            obtain ⟨predicate, states, fails⟩ := exists_states_of_held reads
              (Condition.exists_settling_of_askInOrder held Bool.false_ne_true)
            exact iff_of_false Bool.false_ne_true fun allHold =>
              Bool.false_ne_true (fails.mpr (allHold predicate states))
    | any =>
        cases answer with
        | true =>
            obtain ⟨predicate, states, holds⟩ := exists_states_of_held reads
              (Condition.exists_settling_of_askInOrder held nofun)
            exact iff_of_true rfl fun _ => ⟨predicate, states, holds.mp rfl⟩
        | false =>
            have all := Condition.askInOrder_eq_unsettled_iff.mp held
            refine iff_of_false Bool.false_ne_true fun anyHolds => ?_
            obtain ⟨predicate, states, holds⟩ := anyHolds stated
            exact Bool.false_ne_true
              ((iff_of_all_held reads all states).mpr holds)

end Matches

end Payload

end LedgerRules
