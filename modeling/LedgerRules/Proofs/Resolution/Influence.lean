import LedgerRules.Proofs.Resolution.Crediting
import LedgerRules.Proofs.Rule.Ordering

/-!
# Which rules have influence

A rule that is not credited has written no field, so it may as well be left out.
Two runs are compared, one of them without some rules that the other one does
not credit: they stay alike but for the issues, which links to accounts that are
not known leave behind.
-/

namespace LedgerRules

namespace Settling

/-- The same fields, whatever was told of on the way. -/
def Alike (left right : Settling) : Prop :=
  { left with issues := [] } = { right with issues := [] }

theorem Alike.eq_with {left right : Settling} (alike : Alike left right) :
    right = { left with issues := right.issues } := by
  cases left
  cases right
  cases alike
  rfl

section Idle

variable {known : KnownAccounts} {rule : Rule} {settling : Settling}

/-- An action that does not contribute writes no field. -/
theorem alike_of_idle {action : Action}
    (idle : (settling.act known rule action).2 = false) :
    Alike settling (settling.act known rule action).1 := by
  cases action with
  | setType type =>
      cases taken : settling.typeTaken <;> simp_all [act, Alike]
  | setCategory categoryId =>
      cases taken : settling.categoryTaken <;> simp_all [act, Alike]
  | setAccount accountId =>
      cases taken : settling.accountTaken <;> simp_all [act, Alike]
  | linkTo accountId =>
      cases taken : settling.transferTaken <;> cases allowed :
        known.allow accountId <;>
        simp_all [act, Alike]
  | reconcile => cases idle
  | addNote note => cases idle

/-- A rule that is not credited with any action writes no field. -/
theorem alike_of_uncredited {actions : List Action}
    (uncredited : (settling.actAll known rule actions).2 = []) :
    Alike settling (settling.actAll known rule actions).1 := by
  induction actions generalizing settling with
  | nil => rfl
  | cons action rest induction =>
      simp only [actAll] at uncredited ⊢
      cases contributed : (settling.act known rule action).2 with
      | true => simp [contributed] at uncredited
      | false =>
          rw [contributed, if_neg Bool.false_ne_true] at uncredited
          exact (alike_of_idle contributed).trans (induction uncredited)

end Idle

section Actions

variable {left right : Settling} (known : KnownAccounts) (rule : Rule)

/-- An action treats settlings alike that are alike. -/
theorem Alike.act (alike : Alike left right) (action : Action) :
    Alike (left.act known rule action).1 (right.act known rule action).1 ∧
      (right.act known rule action).2 = (left.act known rule action).2 := by
  rw [alike.eq_with]
  cases action with
  | setType type =>
      by_cases taken : left.typeTaken = true <;>
      simp [Settling.act, taken, Alike]
  | setCategory categoryId =>
      by_cases taken : left.categoryTaken = true <;>
        simp [Settling.act, taken, Alike]
  | setAccount accountId =>
      by_cases taken : left.accountTaken = true <;>
        simp [Settling.act, taken, Alike]
  | linkTo accountId =>
      by_cases taken : left.transferTaken = true <;>
        by_cases allowed : known.allow accountId = true <;>
        simp [Settling.act, taken, allowed, Alike]
  | reconcile => exact ⟨rfl, rfl⟩
  | addNote note => exact ⟨rfl, rfl⟩

theorem Alike.actAll (alike : Alike left right) (actions : List Action) :
    Alike (left.actAll known rule actions).1
      (right.actAll known rule actions).1 ∧
      (right.actAll known rule actions).2 =
        (left.actAll known rule actions).2 := by
  induction actions generalizing left right with
  | nil => exact ⟨alike, rfl⟩
  | cons action rest induction =>
      obtain ⟨between, sameContribution⟩ := alike.act known rule action
      obtain ⟨afterwards, sameCredit⟩ := induction between
      refine ⟨afterwards, ?_⟩
      simp only [Settling.actAll, sameContribution, sameCredit]

theorem id_mem_credit {credited : List Action} (some : credited ≠ []) :
    rule.id ∈ (credit rule credited).map AppliedRule.ruleId := by
  cases credited with
  | nil => exact (some rfl).elim
  | cons => simp [credit]

end Actions

/-- Leaving out rules that are not credited leaves the fields and the audit
trail as they are. -/
theorem run_filter {known : KnownAccounts} {candidate : Candidate}
    {rules : List Rule} {settling final other : Settling}
    {applied : List AppliedRule} {kept : Rule → Bool}
    (success : settling.run known candidate rules = .ok (final, applied))
    (alike : Alike settling other)
    (credited : ∀ rule ∈ rules, rule.id ∈ applied.map AppliedRule.ruleId →
      kept rule = true) :
    ∃ otherFinal,
      other.run known candidate (rules.filter kept) =
      .ok (otherFinal, applied) ∧
      Alike final otherFinal := by
  -- The runs go side by side over the rules; a rule that only one of them has
  -- acts without
  -- writing a field.
  induction rules generalizing settling other applied with
  | nil =>
      cases success
      exact ⟨other, rfl, alike⟩
  | cons rule rest induction =>
      obtain ⟨creditedFirst, creditedRest⟩ := List.forall_mem_cons.mp credited
      obtain ⟨holds, answered, success⟩ := bind_eq_ok_iff.mp success
      cases holds with
      | false =>
          obtain ⟨otherFinal, ran, alikeFinal⟩ :=
            induction success alike creditedRest
          refine ⟨otherFinal, ?_, alikeFinal⟩
          cases keeps : kept rule with
          | false => rwa [List.filter_cons_of_neg (by simp [keeps])]
          | true =>
              rw [List.filter_cons_of_pos keeps, run, answered]
              exact ran
      | true =>
          obtain ⟨⟨between, more⟩, ran, success⟩ := bind_eq_ok_iff.mp success
          cases success
          have creditedLater : ∀ other ∈ rest,
              other.id ∈ more.map AppliedRule.ruleId →
              kept other = true := by
            intro other member creditedOther
            apply creditedRest other member
            rw [List.map_append]
            exact List.mem_append_right _ creditedOther
          cases keeps : kept rule with
          | true =>
              obtain ⟨alikeBetween, sameCredit⟩ :=
                alike.actAll known rule rule.actions
              obtain ⟨otherFinal, otherRan, alikeFinal⟩ :=
                induction ran alikeBetween creditedLater
              refine ⟨otherFinal, ?_, alikeFinal⟩
              rw [List.filter_cons_of_pos keeps, run, answered]
              simp only [bind, Except.bind, if_true, otherRan, sameCredit]
              rfl
          | false =>
              have uncredited : (settling.actAll known rule rule.actions).2 =
                  [] := by
                by_contra contributed
                have member : rule.id ∈
                    (credit rule (settling.actAll known rule rule.actions).2 ++
                      more).map
                      AppliedRule.ruleId := by
                  rw [List.map_append]
                  exact List.mem_append_left _ (id_mem_credit rule contributed)
                rw [creditedFirst member] at keeps
                cases keeps
              have alikeBetween := (alike_of_uncredited uncredited).symm.trans
                alike
              rw [List.filter_cons_of_neg (by simp [keeps]), uncredited]
              exact induction ran alikeBetween creditedLater

end Settling

namespace Resolution

theorem ofRules_filter {known : KnownAccounts} {candidate : Candidate}
    {rules : List Rule} {resolution : Resolution}
    (success : ofRules known rules candidate = .ok resolution)
    (kept : Rule → Bool)
    (credited : ∀ rule ∈ rules,
      rule.id ∈ resolution.appliedRules.map AppliedRule.ruleId →
      kept rule = true) :
    ∃ issues, ofRules known (rules.filter kept) candidate =
      .ok { resolution with issues } := by
  obtain ⟨⟨settling, applied⟩, ran, success⟩ := bind_eq_ok_iff.mp success
  cases success
  obtain ⟨other, otherRan, alike⟩ := Settling.run_filter ran rfl credited
  refine ⟨other.issues, ?_⟩
  rw [alike.eq_with] at otherRan
  simp only [ofRules, otherRan]
  rfl

end Resolution

namespace Selection

variable {intent : Intent} {rules : List StoredRule}

theorem filterMap_serving?_filter {keptStored : StoredRule → Bool}
    {keptRule : Rule → Bool}
    (same : ∀ stored ∈ rules, ∀ rule, stored.serving? intent = some rule →
      keptRule rule = keptStored stored) :
    (rules.filter keptStored).filterMap (StoredRule.serving? intent) =
      (rules.filterMap (StoredRule.serving? intent)).filter keptRule := by
  rw [List.filterMap_filter, List.filter_filterMap]
  apply List.filterMap_congr
  intro stored member
  cases serving : stored.serving? intent with
  | none => simp
  | some rule => simp [Option.filter, same stored member rule serving]

private theorem select_filter {selection : Selection}
    (selected : select intent rules = .ok selection)
    {keptStored : StoredRule → Bool} (keptRule : Rule → Bool)
    (same : ∀ stored ∈ rules, ∀ rule, stored.serving? intent = some rule →
      keptRule rule = keptStored stored) :
    select intent (rules.filter keptStored) =
      .ok ⟨selection.rules.filter keptRule,
        (rules.filter keptStored).filterMap StoredRule.issue?⟩ := by
  obtain ⟨inBounds, rfl⟩ := select_intent_eq_ok_iff.mp selected
  refine select_intent_eq_ok_iff.mpr ⟨?_, ?_⟩
  · intro stored member
    exact inBounds stored (List.mem_filter.mp member).1
  · rw [filterMap_serving?_filter same, Rule.mergeSort_filter]

end Selection

namespace Resolution

variable {intent : Intent} {known : KnownAccounts} {rules : List StoredRule}
  {candidate : Candidate} {resolution : Resolution}

theorem fold_eq_ok_iff :
    fold intent known rules candidate = .ok resolution ↔
      ∃ selection, Selection.select intent rules = .ok selection ∧
        ofRules known selection.rules candidate = .ok resolution := by
  simp only [fold, bind_eq_ok_iff, selected_eq_ok_iff, folded_eq_ok_iff]

/-- Whether a rule with an identifier is credited. -/
def credits (resolution : Resolution) (id : String) : Bool :=
  resolution.appliedRules.any fun applied => applied.ruleId = id

theorem credits_iff {id : String} :
    resolution.credits id = true ↔
      id ∈ resolution.appliedRules.map AppliedRule.ruleId := by
  simp [credits]

theorem fold_filter
    (success : fold intent known rules candidate = .ok resolution)
    {kept : String → Bool}
    (credited : ∀ id, resolution.credits id = true → kept id = true) :
    ∃ issues, fold intent known (rules.filter fun stored => kept stored.id)
      candidate =
      .ok { resolution with issues } := by
  obtain ⟨selection, selected, folded⟩ := fold_eq_ok_iff.mp success
  have sameId : ∀ stored ∈ rules, ∀ rule, stored.serving? intent = some rule →
      kept rule.id = kept stored.id := by
    intro stored _ rule serving
    rw [StoredRule.id_of_compile
      (StoredRule.serving?_eq_some_iff.mp serving).2.1]
  have selectedKept := Selection.select_filter selected
    (fun rule => kept rule.id) sameId
  obtain ⟨issues, foldedKept⟩ :=
    ofRules_filter folded (fun rule => kept rule.id)
    fun rule _ member => credited rule.id (credits_iff.mpr member)
  exact ⟨issues, fold_eq_ok_iff.mpr ⟨_, selectedKept, foldedKept⟩⟩

/-- The credited rules alone come to the same resolution, but for the issues,
and so do any rules among which they are. -/
theorem fold_credited
    (success : fold intent known rules candidate = .ok resolution) :
    (∃ issues, fold intent known
      (rules.filter fun stored => resolution.credits stored.id)
        candidate = .ok { resolution with issues }) ∧
      ∀ kept : String → Bool,
        (∀ id, resolution.credits id = true → kept id = true) →
        ∃ issues, fold intent known (rules.filter fun stored => kept stored.id)
          candidate =
          .ok { resolution with issues } :=
  ⟨fold_filter success fun _ credited => credited, fun _ => fold_filter success⟩

/-- One of the crossing rules does not match; the other three are credited. -/
theorem fold_credited_crossing :
    ∃ resolution,
      fold .general (some ["wallet", "savings"]) Settlement.crossingRules
        Settlement.crossedCandidate = .ok resolution ∧
      (Settlement.crossingRules.map fun stored =>
        resolution.credits stored.id) =
        [true, true, true, false] ∧
      (∃ issues, fold .general (some ["wallet", "savings"])
        (Settlement.crossingRules.filter fun stored =>
          resolution.credits stored.id)
        Settlement.crossedCandidate = .ok { resolution with issues }) ∧
      ∀ kept : String → Bool,
        (∀ id, resolution.credits id = true → kept id = true) →
        ∃ issues, fold .general (some ["wallet", "savings"])
          (Settlement.crossingRules.filter fun stored => kept stored.id)
          Settlement.crossedCandidate = .ok { resolution with issues } := by
  have seen : (fold .general (some ["wallet", "savings"])
      Settlement.crossingRules
      Settlement.crossedCandidate).toOption.map
        (fun resolution => Settlement.crossingRules.map fun stored =>
          resolution.credits stored.id) = some [true, true, true, false] := by
    cbv
  obtain ⟨resolution, success, credited⟩ := exists_ok_of_seen seen
  exact ⟨resolution, success, credited, fold_credited success⟩

end Resolution

end LedgerRules
