import LedgerRules.Proofs.Rule.Asking
import LedgerRules.Proofs.Rule.Compiled

/-!
# Conditions that break

Conditions are asked in order while each of them leaves the answer open.  Of a
finite amount only a range with a bound that is no number cannot be asked, and a
rule cannot be decided exactly when it comes to such a range.
-/

namespace LedgerRules

namespace Decimal

theorem compare?_eq_none_iff {left right : Decimal} :
    compare? left right = none ↔ left.isNaN = true ∨ right.isNaN = true := by
  cases left <;> cases right <;> simp [compare?, isNaN]

theorem atMost_eq_error_iff {left right : Decimal} {fault : Incomparable} :
    left.atMost right = .error fault ↔
      left.isNaN = true ∨ right.isNaN = true := by
  rw [← compare?_eq_none_iff]
  unfold atMost
  cases compare? left right <;> simp

theorem isNaN_of_isFinite {decimal : Decimal}
    (finite : decimal.isFinite = true) :
    decimal.isNaN = false ∧ decimal.isSignalling = false := by
  cases decimal with
  | finite negative coefficient exponent => exact ⟨rfl, rfl⟩
  | infinite negative => cases finite
  | nan negative signalling payload => cases finite

theorem isSignalling_ofDouble (double : Double) :
    (ofDouble double).isSignalling = false := by
  cases double with
  | finite negative significand exponent =>
      simp only [ofDouble]
      split
      · rfl
      · split <;> rfl
  | _ => rfl

end Decimal

namespace Condition

/-- A condition that asks for no signalling amount. -/
def Quiet : Condition → Prop
  | amountEquals value => value.isSignalling = false
  | _ => True

/-- A range of amounts with a bound that is no number: its least amount, or its
greatest one when the amount comes up to the least one. -/
inductive Breaks (amount : Decimal) : Condition → Prop where
  | minimum {minimum maximum : Decimal} (notANumber : minimum.isNaN = true) :
      Breaks amount (amountBetween minimum maximum)
  | maximum {minimum maximum : Decimal}
      (reached : minimum.atMost amount = .ok true)
      (notANumber : maximum.isNaN = true) :
      Breaks amount (amountBetween minimum maximum)

private theorem amountBetween_eq_error_iff {candidate : Candidate}
    {minimum maximum : Decimal} {fault : Incomparable}
    (finite : candidate.amount.isFinite = true) :
    (amountBetween minimum maximum).holds candidate = .error fault ↔
      Breaks candidate.amount (amountBetween minimum maximum) := by
  obtain ⟨number, _⟩ := Decimal.isNaN_of_isFinite finite
  simp only [holds]
  rw [bind_eq_error_iff, Decimal.atMost_eq_error_iff, number]
  constructor
  · rintro (notANumber | ⟨reached, asked, failed⟩)
    · exact .minimum (by simpa using notANumber)
    · cases reached with
      | false => cases failed
      | true =>
          have notANumber := Decimal.atMost_eq_error_iff.mp failed
          exact .maximum asked (by simpa [number] using notANumber)
  · rintro (notANumber | ⟨reached, notANumber⟩)
    · exact .inl (.inl notANumber)
    · exact .inr
        ⟨true, reached, Decimal.atMost_eq_error_iff.mpr (.inr notANumber)⟩

private theorem holds_eq_error_iff {condition : Condition}
    (quiet : condition.Quiet) {candidate : Candidate}
    (finite : candidate.amount.isFinite = true) {fault : Incomparable} :
    condition.holds candidate = .error fault ↔
      Breaks candidate.amount condition := by
  cases condition with
  | amountBetween minimum maximum => exact amountBetween_eq_error_iff finite
  | amountEquals value =>
      obtain ⟨_, noSignal⟩ := Decimal.isNaN_of_isFinite finite
      have quietValue : value.isSignalling = false := quiet
      constructor
      · simp [holds, Decimal.equals, noSignal, quietValue]
      · nofun
  | _ =>
      constructor
      · nofun
      · nofun

/-- Conditions that are asked in order, up to one that breaks, as long as each
of them gives the answer that leaves the outcome open. -/
inductive BreakInOrder (candidate : Candidate) (unsettled : Bool) :
    List Condition → Prop where
  | here {condition : Condition} {rest : List Condition}
      (breaks : Breaks candidate.amount condition) :
      BreakInOrder candidate unsettled (condition :: rest)
  | later {condition : Condition} {rest : List Condition}
      (answered : condition.holds candidate = .ok unsettled)
      (breaks : BreakInOrder candidate unsettled rest) :
      BreakInOrder candidate unsettled (condition :: rest)

section Order

variable {candidate : Candidate} {conditions : List Condition}

private theorem askInOrder_eq_error_iff {unsettled : Bool}
    {fault : Incomparable} (finite : candidate.amount.isFinite = true)
    (quiet : ∀ condition ∈ conditions, condition.Quiet) :
    askInOrder candidate unsettled conditions = .error fault ↔
      BreakInOrder candidate unsettled conditions := by
  induction conditions with
  | nil =>
      constructor
      · nofun
      · nofun
  | cons condition rest induction =>
      have others := induction fun other member =>
        quiet other (List.mem_cons_of_mem condition member)
      rw [askInOrder_cons_eq_error_iff, holds_eq_error_iff
        (quiet condition List.mem_cons_self) finite, others]
      constructor
      · rintro (breaks | ⟨answered, breaks⟩)
        · exact .here breaks
        · exact .later answered breaks
      · rintro (breaks | ⟨answered, breaks⟩)
        · exact .inl breaks
        · exact .inr ⟨answered, breaks⟩

theorem hold_eq_error_iff (finite : candidate.amount.isFinite = true)
    (quiet : ∀ condition ∈ conditions, condition.Quiet) {logic : Logic}
    {fault : Incomparable} :
    hold logic conditions candidate = .error fault ↔
      BreakInOrder candidate (openAnswer logic) conditions := by
  cases conditions with
  | nil =>
      constructor
      · nofun
      · nofun
  | cons condition rest =>
      rw [hold_eq_askInOrder (List.cons_ne_nil condition rest)]
      exact askInOrder_eq_error_iff finite quiet

end Order

end Condition

namespace Rule

/-- A rule that comes to a range of amounts that it cannot ask a candidate
for. -/
def Breaks (candidate : Candidate) (rule : Rule) : Prop :=
  Condition.BreakInOrder candidate (Condition.openAnswer rule.logic)
    rule.conditions

end Rule

theorem Payload.Conditions.quiet_compile (payload : Payload.Conditions) :
    ∀ condition ∈ payload.compile, condition.Quiet := by
  intro condition member
  cases mem_compile_iff.mp member with
  | amountEquals => exact Decimal.isSignalling_ofDouble _
  | _ => trivial

theorem StoredRule.quiet_of_compile {stored : StoredRule} {rule : Rule}
    (success : stored.compile = .ok rule) :
    ∀ condition ∈ rule.conditions, condition.Quiet := by
  obtain ⟨_, _, conditions, _, _, _, _, _, rfl⟩ := compile_eq_ok_iff.mp success
  exact conditions.quiet_compile

end LedgerRules
