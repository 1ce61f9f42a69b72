import LedgerRules.Proofs.Rule.Reading

/-!
# What compiled rules match

A rule that compiles matches what its stored object of conditions says, however
the fields, the terms and the sources of that object are arranged.
-/

namespace LedgerRules

theorem containsAny_congr {terms others : List String}
    (same : Payload.SameTexts terms others) (text : String) :
    containsAny text others = containsAny text terms := by
  rw [Bool.eq_iff_iff, containsAny_iff, containsAny_iff]
  exact exists_congr fun term => and_congr_left fun _ => same term

private theorem contains_distinctSorted_congr {sources others : List String}
    (same : Payload.SameTexts sources others) (source : String) :
    (distinctSorted others).contains source = (distinctSorted sources).contains
      source := by
  rw [Bool.eq_iff_iff, List.contains_iff_mem, List.contains_iff_mem,
    mem_distinctSorted, mem_distinctSorted]
  exact same source

namespace Payload

/-- Conditions that are answered alike. -/
def AnsweredAlike (condition other : Condition) : Prop :=
  ∀ candidate, other.holds candidate = condition.holds candidate

theorem forall₂_toList_map {Value : Type} {related : Value → Value → Prop}
    (make : Value → Condition) {value? other? : Option Value}
    (pair : Option.Rel related value? other?)
    (alike : ∀ value other, related value other →
      AnsweredAlike (make value) (make other)) :
    List.Forall₂ AnsweredAlike (value?.map make).toList
      (other?.map make).toList := by
  cases pair with
  | none => exact .nil
  | some same => exact .cons (alike _ _ same) .nil

theorem Conditions.Resembles.answeredAlike {conditions others : Conditions}
    (resembles : conditions.Resembles others) :
    List.Forall₂ AnsweredAlike conditions.compile others.compile := by
  have same : ∀ made : List Condition, List.Forall₂ AnsweredAlike made made :=
    fun made => List.forall₂_same.mpr fun _ _ _ => rfl
  have rawText := forall₂_toList_map .rawTextContains resembles.rawTextContains
    fun terms others sameTerms candidate => by
      simp only [Condition.holds, containsAny_congr sameTerms]
  have description := forall₂_toList_map .descriptionContains
    resembles.descriptionContains
    fun terms others sameTerms candidate =>
      congrArg Except.ok
        (containsAny_congr sameTerms (candidate.description.getD ""))
  have source :=
    forall₂_toList_map (fun sources => .sourceIn (distinctSorted sources))
    resembles.source fun sources others sameSources candidate =>
      congrArg Except.ok
        (contains_distinctSorted_congr sameSources candidate.source)
  rw [resembles.rest]
  exact List.rel_flatten
    (.cons rawText (.cons description (.cons (same _) (.cons (same _)
    (.cons (same _)
      (.cons source (.cons (same _) (.cons (same _) (.cons (same _)
      (.cons (same _) .nil))))))))))

end Payload

theorem Logic.text_of_ofText? {text : String} {logic : Logic}
    (found : ofText? text = some logic) :
    text = logic.text := by
  unfold ofText? at found
  split at found
  · cases found
    rfl
  · cases found
    rfl
  · cases found

namespace StoredRule

/-- A rule that compiles does with its object of conditions what the object
says.  It has an outcome for every candidate for which its conditions are
answered, each outcome is whether the object matches the candidate, and the rule
with a rearranged object has the same ones.  There a number of at most fifteen
digits stands for itself. -/
theorem matches_stated_of_compile {stored : StoredRule} {rule : Rule}
    (compiled : stored.compile = .ok rule) :
    ∃ fields, payload stored.conditions = .obj fields ∧
      stored.logic = rule.logic.text ∧
      (∀ candidate,
        ((∀ condition ∈ rule.conditions, ∃ answer, condition.holds candidate =
          .ok answer) →
          ∃ answer, Condition.hold rule.logic rule.conditions candidate =
            .ok answer) ∧
        ∀ answer, Condition.hold rule.logic rule.conditions candidate =
          .ok answer →
          (answer = true ↔ Payload.Matches fields candidate rule.logic)) ∧
      (∀ others, Payload.Rearranges fields others →
        ∃ other, { stored with conditions := .obj others }.compile = .ok other ∧
          ∀ candidate, Condition.hold other.logic other.conditions candidate =
            Condition.hold rule.logic rule.conditions candidate) ∧
      (∀ (value : Json) (amount : Decimal), amount.IsShort →
        Payload.double value = .accepted amount.toDouble →
        ∀ number, Payload.Denotes value number ↔ amount.number? = some number) ∧
      ∀ whole : ℤ, |whole| < 10 ^ 15 →
        ∀ number, Payload.Denotes (.int whole) number ↔
          number = .rational whole := by
  obtain ⟨kind, logic, conditions, actions, isKind, isLogic, conditionsAccepted,
    actionsAccepted, rfl⟩ := compile_eq_ok_iff.mp compiled
  obtain ⟨fields, isObject, accepted⟩ :=
    Payload.model_eq_accepted_iff.mp conditionsAccepted
  have reads := Payload.Conditions.checkFields_eq_accepted_iff.mp accepted
  refine ⟨fields, isObject, Logic.text_of_ofText? isLogic, ?_, ?_,
    fun value amount short read number => Payload.denotes_of_isShort short read,
    fun whole small number => Payload.denotes_int small⟩
  · intro candidate
    exact ⟨fun answered => Condition.exists_hold_of_answered answered logic,
      fun answer held => Payload.matches_of_hold reads held⟩
  · intro others rearranges
    obtain ⟨found, foundReads, resembles⟩ := rearranges.exists_reads reads
    have foundAccepted : Payload.Conditions.check .storage
        (payload (.obj others)) =
        .accepted found := by
      rw [payload_obj]
      exact Payload.Conditions.checkFields_eq_accepted_iff.mpr foundReads
    refine ⟨_, compile_eq_ok_iff.mpr
      ⟨kind, logic, found, actions, isKind, isLogic, foundAccepted,
        actionsAccepted, rfl⟩, fun candidate => ?_⟩
    exact Condition.hold_congr
      (resembles.answeredAlike.imp fun _ _ alike => alike candidate) logic

/-- Conditions on messages that mention a café or a bar and on amounts of up to
fifty. -/
def mealFields : Payload.Fields :=
  [("raw_text_contains", .arr [.str "café", .str "bar"]),
    ("amount_max", .int 50), ("source", .null)]

/-- The same conditions in another order, with one term twice. -/
def rearrangedMealFields : Payload.Fields :=
  [("source", .null), ("amount_max", .int 50),
    ("raw_text_contains", .arr [.str "bar", .str "café", .str "bar"])]

def meals : StoredRule where
  id := "meals"
  name := "Meals"
  conditions := .obj mealFields
  actions := .obj [("set_category", .str "food")]

def compiledMeals : Rule where
  id := "meals"
  name := "Meals"
  priority := 0
  kind := .general
  logic := .all
  conditions := [.rawTextContains ["café", "bar"],
    .amountBetween (.finite false 0 (-1)) (.finite false 500 (-1))]
  actions := [.setCategory "food"]
  createdAt := none

/-- A candidate of 12.5 whose message mentions a café in capitals. -/
def breakfast : Candidate where
  description := "Breakfast"
  amount := .finite false 125 (-1)
  rawText := "CAFÉ Central"

theorem rearranges_mealFields :
    Payload.Rearranges mealFields rearrangedMealFields where
  distinct := by decide
  reordered := by
    refine ⟨mealFields.reverse, List.reverse_perm mealFields, ?_⟩
    refine .cons ⟨rfl, .same _⟩ (.cons ⟨rfl, .same _⟩ (.cons ⟨rfl, ?_⟩ .nil))
    exact .listed (by decide) fun item => by simp [or_comm]

/-- The rule matches the candidate, and so does the rule with the rearranged
conditions. -/
theorem matches_stated_of_compile_meals :
    meals.compile = .ok compiledMeals ∧
    Payload.Matches mealFields breakfast .all ∧
      (∀ number, Payload.Denotes (.int 50) number ↔ number = .rational 50) ∧
      ∃ other, { meals with conditions := .obj rearrangedMealFields }.compile =
        .ok other ∧
        Condition.hold other.logic other.conditions breakfast = .ok true := by
  have compiled : meals.compile = .ok compiledMeals := by decide +kernel
  have held : Condition.hold compiledMeals.logic compiledMeals.conditions
      breakfast = .ok true := by
    decide +kernel
  obtain ⟨fields, isObject, _, outcomes, rearranged, _, wholes⟩ :=
    matches_stated_of_compile compiled
  have same : mealFields = fields := Json.obj.inj isObject
  subst same
  obtain ⟨other, otherCompiled, alike⟩ :=
    rearranged rearrangedMealFields rearranges_mealFields
  exact ⟨compiled, ((outcomes breakfast).2 true held).mp rfl,
    wholes 50 (by norm_num), other, otherCompiled, (alike breakfast).trans held⟩

/-- A condition on an amount of 2 ^ 53 + 1, which is no double. -/
def vastFields : Payload.Fields :=
  [("amount_equals", .int 9007199254740993)]

def vast : StoredRule where
  id := "vast"
  name := "Vast"
  conditions := .obj vastFields

def compiledVast : Rule where
  id := "vast"
  name := "Vast"
  priority := 0
  kind := .general
  logic := .all
  conditions := [.amountEquals (.finite false 90071992547409920 (-1))]
  actions := []
  createdAt := none

/-- The amount that the stored condition names. -/
def fortune : Candidate where
  description := "Fortune"
  amount := .ofInt 9007199254740993

/-- A stored number is taken as the nearest double: the candidate has the very
amount that the rule asks for, and the rule does not match it. -/
theorem not_matched_fortune :
    vast.compile = .ok compiledVast ∧
      Payload.stated? "amount_equals" vastFields =
        some (.int 9007199254740993) ∧
      fortune.amount = .ofInt 9007199254740993 ∧
      (∀ condition ∈ compiledVast.conditions, ∃ answer,
        condition.holds fortune = .ok answer) ∧
      Condition.hold compiledVast.logic compiledVast.conditions fortune =
        .ok false := by
  have held : Condition.hold compiledVast.logic compiledVast.conditions
      fortune = .ok false := by
    decide +kernel
  refine ⟨by decide +kernel, rfl, rfl, ?_, held⟩
  intro condition member
  cases List.mem_singleton.mp member
  exact ⟨false, by decide +kernel⟩

end StoredRule

end LedgerRules
