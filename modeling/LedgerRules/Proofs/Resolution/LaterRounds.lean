import LedgerRules.Proofs.Resolution.Crediting
import LedgerRules.Proofs.Resolution.Rounds

/-!
# What later rounds settle

Rules whose conditions ask for nothing that rules change match in every round
alike, so that the first round settles category, account, destination and
identifier of a transfer for good.  The type is the exception: linking sets it
in the round that asks for the transfer, and in every later one a rule that is
credited with another type has its way.
-/

namespace LedgerRules

/-- A condition on what stays from round to round: description, raw text, amount
and source. -/
def Condition.Lasting : Condition → Prop
  | .rawTextContains _ | .descriptionContains _ | .descriptionMatches _ => True
  | .amountBetween _ _ | .amountEquals _ | .sourceIn _ => True
  | .typeIs _ | .fromAccount _ | .toAccount _ | .categoryIs _ => False

instance : DecidablePred Condition.Lasting
  | .rawTextContains _ | .descriptionContains _ | .descriptionMatches _ =>
      .isTrue trivial
  | .amountBetween _ _ | .amountEquals _ | .sourceIn _ => .isTrue trivial
  | .typeIs _ | .fromAccount _ | .toAccount _ | .categoryIs _ => .isFalse id

/-- A stored rule that has no other conditions, when it can be used at all. -/
def StoredRule.Lasting (stored : StoredRule) : Prop :=
  ∀ rule ∈ stored.usable?, ∀ condition ∈ rule.conditions, condition.Lasting

instance : DecidablePred StoredRule.Lasting := fun stored =>
  inferInstanceAs
    (Decidable (∀ rule ∈ stored.usable?, ∀ condition ∈ rule.conditions,
      condition.Lasting))

section Lasting

variable {candidate : Candidate} {resolution : Resolution}

theorem Condition.holds_of_carries {condition : Condition}
    (lasting : condition.Lasting)
    (carries : Resolution.Carries candidate resolution) :
    condition.holds resolution.candidate = condition.holds candidate := by
  cases condition with
  | typeIs | fromAccount | toAccount | categoryIs => exact lasting.elim
  | rawTextContains => simp only [holds, Resolution.candidate, carries.rawText]
  | descriptionContains | descriptionMatches =>
      simp only [holds, Resolution.candidate, carries.description]
  | amountBetween | amountEquals =>
      simp only [holds, Resolution.candidate, carries.amount]
  | sourceIn => simp only [holds, Resolution.candidate, carries.source]

theorem Condition.hold_of_carries {conditions : List Condition}
    (lasting : ∀ condition ∈ conditions, condition.Lasting)
    (carries : Resolution.Carries candidate resolution) (logic : Logic) :
    hold logic conditions resolution.candidate =
      hold logic conditions candidate := by
  apply hold_congr
  apply List.forall₂_same.mpr
  intro condition member
  exact holds_of_carries (lasting condition member) carries

theorem Rule.fits_of_carries {rule : Rule}
    (lasting : ∀ condition ∈ rule.conditions, condition.Lasting)
    (carries : Resolution.Carries candidate resolution) :
    rule.fits resolution.candidate = rule.fits candidate := by
  unfold fits
  rw [Condition.hold_of_carries lasting carries]

theorem Rule.decides_of_carries {rule : Rule}
    (lasting : ∀ condition ∈ rule.conditions, condition.Lasting)
    (carries : Resolution.Carries candidate resolution)
    (decides : rule.Decides candidate) :
    rule.Decides resolution.candidate := by
  unfold Decides
  rw [Condition.hold_of_carries lasting carries]
  exact decides

theorem Selection.lasting_of_select {rules : List StoredRule}
    {selection : Selection} (lasting : ∀ stored ∈ rules, stored.Lasting)
    (selected : select .general rules = .ok selection) :
    ∀ rule ∈ selection.rules, ∀ condition ∈ rule.conditions,
      condition.Lasting := by
  intro rule member
  obtain ⟨stored, memberStored, active, compiled⟩ :=
    mem_of_select selected member
  exact lasting stored memberStored rule
    (StoredRule.usable?_eq_some_iff.mpr ⟨active, compiled⟩)

end Lasting

namespace Resolution

/-- A later resolution that the same rules have settled, starting from an
earlier one. -/
structure Resumes (matching : List Rule)
    (earlier later : Resolution) : Prop where
  type : later.type = (Settlement.firstType? matching).getD earlier.type
  accountId : later.accountId = earlier.accountId
  categoryId : later.categoryId = earlier.categoryId
  transferTo : later.transferTo = earlier.transferTo
  transferId : later.transferId = earlier.transferId

theorem Resumes.trans {matching : List Rule} {first second third : Resolution}
    (earlier : Resumes matching first second)
    (later : Resumes matching second third) :
    Resumes matching first third where
  type := by
    rw [later.type, earlier.type]
    cases Settlement.firstType? matching <;> rfl
  accountId := later.accountId.trans earlier.accountId
  categoryId := later.categoryId.trans earlier.categoryId
  transferTo := later.transferTo.trans earlier.transferTo
  transferId := later.transferId.trans earlier.transferId

theorem or_eq_of_settled {first? settled? given? : Option String}
    (settled : settled? = first?.or given?) :
    first?.or settled? = settled? := by
  rw [settled]
  cases first? <;> rfl

section Rounds

variable {known : KnownAccounts} {ids after : IdSource}
  {rules : List StoredRule} {candidate : Candidate} {selection : Selection}
  {first : Resolution} {matching : List Rule} {issues : List Issue}

section Again

variable
  (account : (settlement known first.candidate matching).accountId =
    first.accountId)
  (category : (settlement known first.candidate matching).categoryId =
    first.categoryId)
    

include account category

theorem resumed_of_kept
    (kept : (settlement known first.candidate matching).transferTo =
      first.transferTo)
    (done : nonEmpty? first.transferTo = none ∨
      ∃ transferId, nonEmpty? first.transferId = some transferId) :
    ∃ second, Linked known after
        ((settlement known first.candidate matching).reporting issues)
          (second, after) ∧
      Resumes matching first second := by
  have resumes : Resumes matching first
      ((settlement known first.candidate matching).reporting issues) :=
    ⟨rfl, account, category, kept, rfl⟩
  cases destined : nonEmpty? first.transferTo with
  | none => exact ⟨_, .noDestination ((congrArg nonEmpty? kept).trans destined),
      resumes⟩
  | some destination =>
      rw [destined] at done
      obtain ⟨transferId, linked⟩ := done.resolve_left nofun
      exact ⟨_, .already ((congrArg nonEmpty? kept).trans destined) linked,
        resumes⟩

theorem resumed_of_givenUp (gone : first.transferTo = none)
    (unlinked : nonEmpty? first.transferId = none)
    (own : ∀ destination, Settlement.firstDestination? known matching =
      some destination → first.accountId = some destination ∧
      destination ≠ "") :
    ∃ second, Linked known after
        ((settlement known first.candidate matching).reporting issues)
          (second, after) ∧
      Resumes matching first second := by
  have again : (settlement known first.candidate matching).transferTo =
      Settlement.firstDestination? known matching := by
    change Option.or _ first.transferTo = _
    rw [gone]
    exact Option.or_none
  cases destination? : Settlement.firstDestination? known matching with
  | none =>
      rw [destination?] at again
      exact resumed_of_kept account category (again.trans gone.symm)
        (.inl ((congrArg nonEmpty? gone).trans rfl))
  | some destination =>
      rw [destination?] at again
      obtain ⟨same, notEmpty⟩ := own destination destination?
      exact ⟨_, .own (nonEmpty?_eq_some_iff.mpr ⟨again, notEmpty⟩) unlinked
        (allow_of_first? destination?) (account.trans same),
        ⟨rfl, account, category, gone.symm, rfl⟩⟩

end Again

/-- Settled and linked again by the same rules, a resolution is resumed. -/
theorem Linked.again
    (linked : Linked known ids
      ((settlement known candidate matching).reporting issues)
      (first, after)) :
    ∃ second, Linked known after
        ((settlement known first.candidate matching).reporting issues)
          (second, after) ∧
      Resumes matching first second := by
  obtain ⟨keptAccount, keptCategory, _⟩ := linked.keeps
  have account : (settlement known first.candidate matching).accountId =
      first.accountId :=
    or_eq_of_settled keptAccount
  have category : (settlement known first.candidate matching).categoryId =
      first.categoryId :=
    or_eq_of_settled keptCategory
  -- A rule with a destination has settled the one that linking came to.
  have settledBy : ∀ {destination other},
      Settlement.firstDestination? known matching = some other →
      nonEmpty? ((settlement known candidate matching).reporting
        issues).transferTo =
        some destination → other = destination ∧ destination ≠ "" := by
    intro destination other first destined
    obtain ⟨present, notEmpty⟩ := nonEmpty?_eq_some_iff.mp destined
    change Option.or _ candidate.transferTo = _ at present
    rw [first] at present
    exact ⟨Option.some.inj present, notEmpty⟩
  cases linked with
  | noDestination absent =>
      exact resumed_of_kept account category (or_eq_of_settled rfl)
        (.inl absent)
  | already _ linked =>
      exact resumed_of_kept account category (or_eq_of_settled rfl)
        (.inr ⟨_, linked⟩)
  | paired =>
      exact resumed_of_kept account category (or_eq_of_settled rfl)
        (.inr ⟨_, ids.nonEmpty?_next⟩)
  | unknown destined unlinked refused =>
      refine resumed_of_givenUp account category rfl unlinked ?_
      intro other first
      obtain ⟨rfl, _⟩ := settledBy first destined
      rw [allow_of_first? first] at refused
      cases refused
  | own destined unlinked _ same =>
      refine resumed_of_givenUp account category rfl unlinked ?_
      intro other first
      obtain ⟨rfl, notEmpty⟩ := settledBy first destined
      exact ⟨same, notEmpty⟩

theorem filter_fits_of_carries {rules : List Rule} {resolution : Resolution}
    (lasting : ∀ rule ∈ rules, ∀ condition ∈ rule.conditions, condition.Lasting)
    (carries : Carries candidate resolution) :
    rules.filter (Rule.fits resolution.candidate) =
      rules.filter (Rule.fits candidate) := by
  apply List.filter_congr
  intro rule member
  exact Rule.fits_of_carries (lasting rule member) carries

theorem resolve_again (lasting : ∀ stored ∈ rules, stored.Lasting)
    (selected : Selection.select .general rules = .ok selection)
    (success : resolve known ids rules candidate = .ok (first, after)) :
    ∃ second, resolve known after rules first.candidate = .ok (second, after) ∧
      Resumes (selection.rules.filter (Rule.fits candidate)) first second := by
  have lastingSelected := Selection.lasting_of_select lasting selected
  have carries := (resolved_of_resolve success).carries
  obtain ⟨_, sameSelected, decided, linked⟩ :=
    resolve_eq_ok_iff_linked.mp success
  cases selected.symm.trans sameSelected
  obtain ⟨second, linkedAgain, resumes⟩ := linked.again
  refine ⟨second, resolve_eq_ok_iff_linked.mpr ⟨selection, selected, ?_, ?_⟩,
    resumes⟩
  · intro rule member
    exact Rule.decides_of_carries (lastingSelected rule member) carries
      (decided rule member)
  · rw [filter_fits_of_carries lastingSelected carries]
    exact linkedAgain

theorem rounds_resume (lasting : ∀ stored ∈ rules, stored.Lasting)
    (selected : Selection.select .general rules = .ok selection)
    (success : resolve known ids rules candidate = .ok (first, after))
    (count : Nat) :
    ∃ later, rounds known rules count after first.candidate = .ok later ∧
      later.length = count ∧
      ∀ result ∈ later,
        Resumes (selection.rules.filter (Rule.fits candidate)) first
          result := by
  induction count generalizing ids candidate first after with
  | zero =>
      refine ⟨[], rfl, rfl, ?_⟩
      intro result member
      cases member
  | succ count induction =>
      obtain ⟨second, resolving, resumes⟩ :=
        resolve_again lasting selected success
      obtain ⟨rest, running, length, resumeSecond⟩ := induction resolving
      -- The rest resumes the second round with the rules that match the first.
      rw [filter_fits_of_carries (Selection.lasting_of_select lasting selected)
        (resolved_of_resolve success).carries] at resumeSecond
      refine ⟨second :: rest, rounds_succ_eq_ok_iff.mpr
        ⟨_, _, _, resolving, running, rfl⟩, congrArg (· + 1) length,
        List.forall_mem_cons.mpr ⟨resumes, ?_⟩⟩
      intro result member
      exact resumes.trans (resumeSecond result member)

theorem Resumes.type_eq_iff {result : Resolution}
    (selected : Selection.select .general rules = .ok selection)
    (success : resolve known ids rules candidate = .ok (first, after))
    (resumes : Resumes (selection.rules.filter (Rule.fits candidate)) first
      result) :
    result.type = first.type ↔ ¬ first.Overruled .type := by
  obtain ⟨_, sameSelected, _, linked⟩ := resolve_eq_ok_iff_linked.mp success
  cases selected.symm.trans sameSelected
  have credited := recorded_of_linked selected linked .type
  have type : result.type =
      (Exclusive.first? known .type
        (selection.rules.filter (Rule.fits candidate))).getD first.type :=
          resumes.type
  cases credit? : Exclusive.first? known .type
    (selection.rules.filter (Rule.fits candidate)) with
  | none =>
      rw [credit?] at credited type
      exact iff_of_true type (not_overruled_of_unrecorded credited)
  | some credit =>
      rw [credit?] at credited type
      rw [← agrees_iff_not_overruled success, agrees_iff_of_recorded credited,
        type]
      exact ⟨fun same => congrArg some same.symm, fun same =>
        (Option.some.inj same).symm⟩

/-- With rules that last, all later rounds answer, and keep category, account,
destination and identifier of the first one.  They keep its type unless linking
has overruled a rule that sets another one. -/
theorem rounds_keep_settled_fields (lasting : ∀ stored ∈ rules, stored.Lasting)
    (success : resolve known ids rules candidate = .ok (first, after))
    (count : Nat) :
    ∃ later, rounds known rules (count + 1) ids candidate =
      .ok (first :: later) ∧
      later.length = count ∧
      ∀ result ∈ later,
        (result.type = first.type ↔ ¬ first.Overruled .type) ∧
        result.categoryId = first.categoryId ∧
        result.accountId = first.accountId ∧
        result.transferTo = first.transferTo ∧
        result.transferId = first.transferId := by
  obtain ⟨selection, selected, _, _⟩ := resolve_eq_ok_iff_linked.mp success
  obtain ⟨later, running, length, resume⟩ :=
    rounds_resume lasting selected success count
  refine ⟨later, rounds_succ_eq_ok_iff.mpr ⟨_, _, _, success, running, rfl⟩,
    length, ?_⟩
  intro result member
  have resumes := resume result member
  exact ⟨resumes.type_eq_iff selected success, resumes.categoryId,
    resumes.accountId, resumes.transferTo, resumes.transferId⟩

end Rounds

theorem rounds_keep_settled_fields_rent :
    (∀ stored ∈ rentRules, stored.Lasting) ∧
      ∃ outcome, resolve rentAccounts .transfers rentRules rent = .ok outcome ∧
        outcome.1.transferTo = some "joint" ∧
        ∃ later, rounds rentAccounts rentRules 3 .transfers rent =
          .ok (outcome.1 :: later) ∧
          later.length = 2 ∧
          ∀ result ∈ later,
            (result.type = outcome.1.type ↔ ¬ outcome.1.Overruled .type) ∧
            result.categoryId = outcome.1.categoryId ∧
            result.accountId = outcome.1.accountId ∧
            result.transferTo = outcome.1.transferTo ∧
            result.transferId = outcome.1.transferId := by
  have lasting : ∀ stored ∈ rentRules, stored.Lasting := by
    decide +kernel
  have seen : (resolve rentAccounts .transfers rentRules rent).toOption.map
      (fun outcome => outcome.1.transferTo) = some (some "joint") := by
    cbv
  obtain ⟨outcome, success, destination⟩ := exists_ok_of_seen seen
  exact ⟨lasting, outcome, success, destination,
    rounds_keep_settled_fields lasting success 2⟩

/-- A salary that is moved on is a transfer in the first round, and income in
the second. -/
theorem not_type_kept_salary :
    (∀ stored ∈ salaryRules, stored.Lasting) ∧
      ∃ results, rounds none salaryRules 2 .transfers (salaryOn "wallet") =
        .ok results ∧
        results.map Resolution.type = ["transfer", "income"] := by
  have seen : (rounds none salaryRules 2 .transfers
      (salaryOn "wallet")).toOption.map
      (fun results => results.map Resolution.type) =
        some ["transfer", "income"] := by
    cbv
  exact ⟨by decide +kernel, exists_ok_of_seen seen⟩

end Resolution

end LedgerRules
