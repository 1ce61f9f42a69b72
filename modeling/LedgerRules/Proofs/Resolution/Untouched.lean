import LedgerRules.Proofs.Resolution.Again
import LedgerRules.Proofs.Resolution.Influence

/-!
# Candidates that no rule touches

When no rule is credited, every rule that matches links to an account that is
not known, or does nothing at all.  Such a candidate keeps its fields in
folding, and only linking may still change it.  Resolved again, it is left alone
by all rules, unless linking has made a transfer of what was none and a rule
matches the transfer only.
-/

namespace LedgerRules

/-- Whether an action does something while no field is taken: a link needs an
account that is known. -/
def Action.isEffective (known : KnownAccounts) : Action → Bool
  | linkTo accountId => known.allow accountId
  | _ => true

/-- Whether an action of a rule does something while no field is taken. -/
def Rule.isEffective (known : KnownAccounts) (rule : Rule) : Bool :=
  rule.actions.any (Action.isEffective known)

namespace Settling

/-- No rule has taken a field yet. -/
structure Untaken (settling : Settling) : Prop where
  type : settling.typeTaken = false
  account : settling.accountTaken = false
  category : settling.categoryTaken = false
  transfer : settling.transferTaken = false

theorem untaken_ofCandidate (candidate : Candidate) :
    (ofCandidate candidate).Untaken :=
  ⟨rfl, rfl, rfl, rfl⟩

namespace Untaken

variable {known : KnownAccounts} {settling : Settling}

theorem of_alike {other : Settling} (untaken : settling.Untaken)
    (alike : Alike settling other) :
    other.Untaken := by
  rw [alike.eq_with]
  exact ⟨untaken.type, untaken.account, untaken.category, untaken.transfer⟩

theorem act_eq (untaken : settling.Untaken) (rule : Rule) (action : Action) :
    (settling.act known rule action).2 = action.isEffective known := by
  obtain ⟨type, account, category, transfer⟩ := untaken
  cases action with
  | linkTo accountId =>
      cases allowed : known.allow accountId <;>
        simp [act, Action.isEffective, transfer, allowed]
  | _ => simp [act, Action.isEffective, type, account, category]

theorem actAll_eq_nil_iff (untaken : settling.Untaken) (rule : Rule)
    (actions : List Action) :
    (settling.actAll known rule actions).2 = [] ↔
      actions.any (Action.isEffective known) = false := by
  induction actions generalizing settling with
  | nil => simp [actAll]
  | cons action rest induction =>
      have contributes : (settling.act known rule action).2 =
          action.isEffective known :=
        untaken.act_eq rule action
      rw [List.any_cons]
      cases effective : action.isEffective known with
      | true => simp [actAll, contributes, effective]
      | false =>
          rw [effective] at contributes
          simp only [actAll, contributes, Bool.false_or]
          exact induction (untaken.of_alike (alike_of_idle contributes))

private theorem run_eq_nil_iff {candidate : Candidate} {rules : List Rule}
    {final : Settling} {applied : List AppliedRule} (untaken : settling.Untaken)
    (success : settling.run known candidate rules = .ok (final, applied)) :
    applied = [] ↔
      ∀ rule ∈ rules, rule.fits candidate = true →
        rule.isEffective known = false := by
  induction rules generalizing settling applied with
  | nil =>
      cases success
      simp
  | cons rule rest induction =>
      rw [List.forall_mem_cons]
      obtain ⟨holds, answered, success⟩ := bind_eq_ok_iff.mp success
      have fits : rule.fits candidate = holds := by simp [Rule.fits, answered]
      rw [fits]
      cases holds with
      | false =>
          rw [induction untaken success]
          simp
      | true =>
          obtain ⟨⟨between, more⟩, ran, success⟩ := bind_eq_ok_iff.mp success
          cases success
          have credited : (settling.actAll known rule rule.actions).2 = [] ↔
              rule.isEffective known = false :=
                untaken.actAll_eq_nil_iff rule rule.actions
          cases effective : rule.isEffective known with
          | true =>
              have some : (settling.actAll known rule rule.actions).2 ≠ [] := by
                rw [Ne, credited, effective]
                decide
              refine iff_of_false ?_ ?_
              · intro none
                have member := id_mem_credit rule some
                rw [(List.append_eq_nil_iff.mp none).1] at member
                cases member
              · rintro ⟨ineffective, _⟩
                cases ineffective rfl
          | false =>
              have none := credited.mpr effective
              have later :=
                induction (untaken.of_alike (alike_of_uncredited none)) ran
              rw [none]
              simp only [forall_const, true_and]
              exact later

end Untaken

end Settling

namespace Resolution

variable {known : KnownAccounts} {candidate : Candidate}

theorem appliedRules_eq_nil_iff {rules : List Rule} {resolution : Resolution}
    (success : ofRules known rules candidate = .ok resolution) :
    resolution.appliedRules = [] ↔
      ∀ rule ∈ rules, rule.fits candidate = true →
        rule.isEffective known = false := by
  obtain ⟨⟨settling, applied⟩, ran, success⟩ := bind_eq_ok_iff.mp success
  cases success
  exact (Settling.untaken_ofCandidate candidate).run_eq_nil_iff ran

theorem ofRules_nil_of_untouched {rules : List Rule} {resolution : Resolution}
    (success : ofRules known rules candidate = .ok resolution)
    (untouched : resolution.appliedRules = []) :
    ∃ issues, ofRules known [] candidate = .ok { resolution with issues } := by
  obtain ⟨issues, without⟩ := ofRules_filter success (fun _ => false) (by
    rw [untouched]
    exact fun _ _ => nofun)
  rw [List.filter_false] at without
  exact ⟨issues, without⟩

private theorem candidate_of_untouched {rules : List Rule}
    {resolution : Resolution}
    (success : ofRules known rules candidate = .ok resolution)
    (untouched : resolution.appliedRules = []) :
    resolution.candidate =
      { candidate with notes := nonEmpty? candidate.notes } := by
  obtain ⟨issues, without⟩ := ofRules_nil_of_untouched success untouched
  have plain : ∃ plain, ofRules known [] candidate = .ok plain ∧
      plain.candidate =
        { candidate with notes := nonEmpty? candidate.notes } := by
    refine ⟨_, rfl, ?_⟩
    cases given : nonEmpty? candidate.notes <;>
      simp [Resolution.candidate, Settling.ofCandidate, given]
  obtain ⟨plain, folded, same⟩ := plain
  rw [← same, Except.ok.inj (folded.symm.trans without)]
  rfl

end Resolution

/-- A candidate with the fields of another one that conditions ask for; its
destination may be gone. -/
structure Candidate.Narrows (candidate other : Candidate) : Prop where
  fields : other = { candidate with
    notes := other.notes
    transferTo := other.transferTo
    transferId := other.transferId }
  transferTo : other.transferTo = candidate.transferTo ∨ other.transferTo = none

section Narrowing

variable {candidate other : Candidate}

theorem Condition.holds_of_narrows (narrows : candidate.Narrows other)
    {condition : Condition} (holds : condition.holds other = .ok true) :
    condition.holds candidate = .ok true := by
  rw [narrows.fields] at holds
  cases condition with
  | toAccount accountId =>
      rcases narrows.transferTo with same | gone
      · rw [same] at holds
        exact holds
      · simp [Condition.holds, gone] at holds
  | _ => exact holds

theorem Rule.fits_of_narrows (narrows : candidate.Narrows other) {rule : Rule}
    (decides : rule.Decides candidate) (fitting : rule.fits other = true) :
    rule.fits candidate = true := by
  obtain ⟨answer, answered⟩ := decides
  have held : Condition.hold rule.logic rule.conditions other = .ok true := by
    unfold fits at fitting
    split at fitting
    case h_1 answer held =>
      subst fitting
      exact held
    case h_2 => cases fitting
  have positive := Condition.eq_true_of_hold held
    (fun _ _ => Condition.holds_of_narrows narrows) answered
  simp [fits, answered, positive]

theorem Rule.fits_onDate (rule : Rule) (candidate : Candidate)
    (date : Option Date) :
    rule.fits { candidate with transactionDate := date } =
      rule.fits candidate := by
  rw [fits, fits, Condition.hold_onDate]

end Narrowing

namespace Resolution

variable {known : KnownAccounts} {ids after : IdSource}
  {rules : List StoredRule} {candidate : Candidate} {resolution : Resolution}

/-- Linking makes a transfer of a candidate that was none, and a rule with an
effect matches the transfer only. -/
structure Stirs (known : KnownAccounts) (rules : List StoredRule)
    (candidate : Candidate) (resolution : Resolution) : Prop where
  otherType : candidate.type ≠ transferType
  requested : resolution.transferRequest.isSome = true
  awakened : ∃ stored ∈ rules, ∃ rule, stored.usable? = some rule ∧
    rule.fits candidate = false ∧ rule.fits resolution.candidate = true ∧
    rule.isEffective known = true

theorem Linked.narrows_or_retyped {folded : Resolution}
    {outcome : Resolution × IdSource} (linked : Linked known ids folded outcome)
    (kept : folded.candidate =
      { candidate with notes := nonEmpty? candidate.notes }) :
    candidate.Narrows outcome.1.candidate ∨
      candidate.type ≠ transferType ∧
      outcome.1.transferRequest.isSome = true := by
  cases linked with
  | noDestination | already =>
      rw [kept]
      exact .inl ⟨rfl, .inl rfl⟩
  | unknown | own =>
      change candidate.Narrows { folded.candidate with transferTo := none } ∨ _
      rw [kept]
      exact .inl ⟨rfl, .inr rfl⟩
  | paired =>
      by_cases transfer : candidate.type = transferType
      case pos =>
        refine .inl ?_
        change candidate.Narrows { folded.candidate with
          type := transferType, transferId := some ids.next.1 }
        rw [kept, ← transfer]
        exact ⟨rfl, .inl rfl⟩
      case neg => exact .inr ⟨transfer, rfl⟩

section Again

variable {otherIds last : IdSource} {date : Option Date} {again : Resolution}

/-- Resolved again, what no rule touched is left alone by all rules, unless it
stirs one. -/
theorem untouched_again_iff
    (success : resolve known ids rules candidate = .ok (resolution, after))
    (untouched : resolution.appliedRules = [])
    (successAgain : resolve known otherIds rules
      { resolution.candidate with transactionDate := date } =
        .ok (again, last)) :
    again.appliedRules = [] ↔ ¬ Stirs known rules candidate resolution := by
  obtain ⟨selection, folded, selected, folding, linked⟩ :=
    linked_of_resolve success
  obtain ⟨_, foldedAgain, selectedAgain, foldingAgain, linkedAgain⟩ :=
    linked_of_resolve successAgain
  cases selected.symm.trans selectedAgain
  have foldedUntouched : folded.appliedRules = [] :=
    linked.keeps.2.2.symm.trans untouched
  have idle := (appliedRules_eq_nil_iff folding).mp foldedUntouched
  have idleAgain := appliedRules_eq_nil_iff foldingAgain
  simp only [Rule.fits_onDate] at idleAgain
  rw [show again.appliedRules = foldedAgain.appliedRules
    from linkedAgain.keeps.2.2, idleAgain]
  constructor
  · rintro silent ⟨_, _, stored, member, rule, usable, _, fits, effective⟩
    have selectedRule : rule ∈ selection.rules := by
      rw [(Selection.select_eq_ok_iff.mp selected).2, List.mem_mergeSort]
      exact List.mem_filterMap.mpr ⟨stored, member, usable⟩
    rw [silent rule selectedRule fits] at effective
    cases effective
  · intro calm rule member fits
    by_contra effective
    rw [Bool.not_eq_false] at effective
    have unfitting : rule.fits candidate = false := by
      by_contra fitting
      rw [idle rule member (by simpa using fitting)] at effective
      cases effective
    have kept := candidate_of_untouched folding foldedUntouched
    rcases linked.narrows_or_retyped kept with narrows | ⟨otherType, requested⟩
    · obtain ⟨_, ran, _⟩ := bind_eq_ok_iff.mp folding
      have decides := decides_of_run ran rule member
      rw [Rule.fits_of_narrows narrows decides fits] at unfitting
      cases unfitting
    · obtain ⟨stored, storedMember, active, compiled⟩ :=
        Selection.mem_of_select selected member
      exact calm ⟨otherType, requested, stored, storedMember, rule,
        StoredRule.usable?_eq_some_iff.mpr ⟨active, compiled⟩, unfitting, fits,
        effective⟩

/-- What no rule touches when it is resolved again comes out as it was. -/
theorem accepted_of_untouched
    (success : resolve known ids rules candidate = .ok (resolution, after))
    (notes : resolution.notes ≠ some "")
    (successAgain : resolve known otherIds rules
      { resolution.candidate with transactionDate := date } = .ok (again, last))
    (untouched : again.appliedRules = []) :
    ∃ issues, again = { resolution.accepted date with issues } := by
  obtain ⟨selection, folded, _, folding, linked⟩ :=
    linked_of_resolve successAgain
  obtain ⟨issues, without⟩ :=
    ofRules_nil_of_untouched folding (linked.keeps.2.2.symm.trans untouched)
  have same := Except.ok.inj (without.symm.trans (ofRules_nil known notes date))
  have foldedAsAccepted : folded =
      { resolution.accepted date with issues := folded.issues } := by
    rw [← same]
  rw [foldedAsAccepted] at linked
  have settled := (resolved_of_resolve success).settled
  have stays := @link_of_settled
    { resolution.accepted date with issues := selection.issues ++
      folded.issues } settled
    known otherIds
  cases stays.symm.trans (link_eq_of_linked linked)
  exact ⟨_, rfl⟩

end Again

end Resolution

end LedgerRules
