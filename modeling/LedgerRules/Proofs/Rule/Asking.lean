import LedgerRules.Proofs.Outcomes
import LedgerRules.Rule.Condition

/-!
# Conditions asked in order

Under either logic the conditions of a rule are asked in order as long as each
of them gives the answer that leaves the outcome open.  So the outcome is open
to the end exactly when all of them give that answer, and it depends on nothing
but the answers.
-/

namespace LedgerRules

namespace Condition

/-- The answer of a condition that leaves the outcome of a logic open. -/
def openAnswer : Logic → Bool
  | .all => true
  | .any => false

/-- Asks conditions in order up to the first that settles the outcome. -/
def askInOrder (candidate : Candidate) (unsettled : Bool) :
    List Condition → Except Incomparable Bool
  | [] => .ok unsettled
  | condition :: rest => do
      let answer ← condition.holds candidate
      if answer = unsettled then askInOrder candidate unsettled rest
        else return answer

section Asking

variable {candidate : Candidate} {conditions : List Condition}
  {unsettled answer : Bool}

theorem allHold_eq_askInOrder :
    allHold candidate conditions = askInOrder candidate true conditions := by
  induction conditions with
  | nil => rfl
  | cons condition rest induction =>
      rw [allHold, askInOrder, induction]
      congr 1
      funext answer
      cases answer <;> rfl

theorem anyHolds_eq_askInOrder :
    anyHolds candidate conditions = askInOrder candidate false conditions := by
  induction conditions with
  | nil => rfl
  | cons condition rest induction =>
      rw [anyHolds, askInOrder, induction]
      congr 1
      funext answer
      cases answer <;> rfl

/-- Conditions are asked in order, if there are any. -/
theorem hold_eq_askInOrder (nonempty : conditions ≠ []) (logic : Logic) :
    hold logic conditions candidate = askInOrder candidate (openAnswer logic)
      conditions := by
  unfold hold
  rw [if_neg (by simpa using nonempty)]
  cases logic with
  | all => exact allHold_eq_askInOrder
  | any => exact anyHolds_eq_askInOrder

theorem askInOrder_cons_eq_error_iff {condition : Condition}
    {rest : List Condition} {fault : Incomparable} :
    askInOrder candidate unsettled (condition :: rest) = .error fault ↔
      condition.holds candidate = .error fault ∨
        condition.holds candidate = .ok unsettled ∧
          askInOrder candidate unsettled rest = .error fault := by
  rw [askInOrder, bind_eq_error_iff]
  apply or_congr_right
  constructor
  · rintro ⟨answer, answered, failed⟩
    split at failed
    case isTrue same =>
      subst same
      exact ⟨answered, failed⟩
    case isFalse => cases failed
  · rintro ⟨answered, failed⟩
    exact ⟨unsettled, answered, by rwa [if_pos rfl]⟩

/-- Conditions that are asked to the end leave the outcome open. -/
theorem askInOrder_eq_unsettled_iff :
    askInOrder candidate unsettled conditions = .ok unsettled ↔
      ∀ condition ∈ conditions, condition.holds candidate = .ok unsettled := by
  induction conditions with
  | nil => simp [askInOrder]
  | cons condition rest induction =>
      rw [askInOrder, bind_eq_ok_iff, List.forall_mem_cons, ← induction]
      constructor
      · rintro ⟨answer, answered, asked⟩
        split at asked
        case isTrue same =>
          subst same
          exact ⟨answered, asked⟩
        case isFalse apart =>
          cases asked
          exact (apart rfl).elim
      · rintro ⟨answered, asked⟩
        exact ⟨unsettled, answered, by rwa [if_pos rfl]⟩

/-- An outcome that is not open was settled by a condition. -/
theorem exists_settling_of_askInOrder
    (asked : askInOrder candidate unsettled conditions = .ok answer)
    (settled : answer ≠ unsettled) :
    ∃ condition ∈ conditions, condition.holds candidate = .ok answer := by
  induction conditions with
  | nil =>
      cases asked
      exact (settled rfl).elim
  | cons condition rest induction =>
      obtain ⟨first, answered, asked⟩ := bind_eq_ok_iff.mp asked
      split at asked
      case isTrue =>
        obtain ⟨settling, member, holds⟩ := induction asked
        exact ⟨settling, List.mem_cons_of_mem condition member, holds⟩
      case isFalse =>
        cases asked
        exact ⟨condition, List.mem_cons_self, answered⟩

/-- Conditions that are all answered have an outcome. -/
theorem exists_hold_of_answered
    (answered : ∀ condition ∈ conditions, ∃ answer, condition.holds candidate =
      .ok answer)
    (logic : Logic) : ∃ answer,
      hold logic conditions candidate = .ok answer := by
  have asked : ∃ answer, askInOrder candidate (openAnswer logic) conditions =
      .ok answer := by
    induction conditions with
    | nil => exact ⟨openAnswer logic, rfl⟩
    | cons condition rest induction =>
        obtain ⟨⟨first, firstAnswered⟩, others⟩ :=
          List.forall_mem_cons.mp answered
        obtain ⟨later, askedLater⟩ := induction others
        rw [askInOrder, firstAnswered]
        by_cases unsettled : first = openAnswer logic
        · exact ⟨later, (if_pos unsettled).trans askedLater⟩
        · exact ⟨first, if_neg unsettled⟩
  cases conditions with
  | nil => exact ⟨true, rfl⟩
  | cons condition rest =>
      obtain ⟨answer, asked⟩ := asked
      exact ⟨answer,
        (hold_eq_askInOrder (List.cons_ne_nil condition rest) logic).trans
        asked⟩

/-- The outcome depends on nothing but the answers of the conditions. -/
theorem hold_congr {others : List Condition} {other : Candidate}
    (same : List.Forall₂
      (fun condition partner => partner.holds other = condition.holds candidate)
      conditions others)
    (logic : Logic) :
    hold logic others other = hold logic conditions candidate := by
  have asked : ∀ unsettled, askInOrder other unsettled others =
      askInOrder candidate unsettled conditions := by
    intro unsettled
    induction same with
    | nil => rfl
    | cons first _ induction => rw [askInOrder, askInOrder, first, induction]
  cases same with
  | nil => rfl
  | cons => rw [hold_eq_askInOrder (List.cons_ne_nil _ _),
      hold_eq_askInOrder (List.cons_ne_nil _ _), asked]

/-- Conditions that hold together for a candidate hold together for another one
too, if each that holds for the first one holds for the second one. -/
theorem eq_true_of_hold {other : Candidate} {logic : Logic}
    (held : hold logic conditions other = .ok true)
    (carried : ∀ condition ∈ conditions, condition.holds other = .ok true →
      condition.holds candidate = .ok true)
    (asked : hold logic conditions candidate = .ok answer) : answer = true := by
  by_cases nonempty : conditions = []
  case pos =>
    subst nonempty
    cases asked
    rfl
  case neg =>
    rw [hold_eq_askInOrder nonempty] at held asked
    cases logic with
    | all =>
        have all := askInOrder_eq_unsettled_iff.mp held
        have allCarried : askInOrder candidate true conditions = .ok true :=
          askInOrder_eq_unsettled_iff.mpr fun condition member =>
            carried condition member (all condition member)
        cases asked.symm.trans allCarried
        rfl
    | any =>
        obtain ⟨condition, member, holds⟩ := exists_settling_of_askInOrder held
          (by decide)
        by_contra refused
        rw [Bool.not_eq_true] at refused
        subst refused
        have none := askInOrder_eq_unsettled_iff.mp asked condition member
        cases none.symm.trans (carried condition member holds)

end Asking

end Condition

end LedgerRules
