import LedgerRules.Proofs.Resolution.Reordering

/-!
# Malformed rules are only reported

A malformed rule is told of in an issue when it is active, and is passed over
otherwise.  It has no other influence: selecting, folding and linking come to
what they come to without it, and its issue stands in front of all others, in
the order in which the rules are handed in.
-/

namespace LedgerRules

namespace StoredRule

/-- Whether compiling a stored rule says in which way it is malformed. -/
def isMalformed (stored : StoredRule) : Bool :=
  match stored.compile with
  | .error (.malformed _) => true
  | _ => false

theorem isMalformed_iff {stored : StoredRule} :
    stored.isMalformed = true ↔
      ∃ malformation, stored.compile = .error (.malformed malformation) := by
  unfold isMalformed
  cases stored.compile with
  | ok rule => simp
  | error fault => cases fault <;> simp

theorem issue?_eq_none {stored : StoredRule}
    (wellFormed : stored.isMalformed = false) :
    stored.issue? = none := by
  unfold isMalformed at wellFormed
  unfold issue?
  cases stored.isActive with
  | false => rfl
  | true =>
      cases compiled : stored.compile with
      | ok rule => rfl
      | error fault => cases fault <;> simp_all

theorem serving?_eq_none {stored : StoredRule}
    (malformed : stored.isMalformed = true) (intent : Intent) :
    stored.serving? intent = none := by
  obtain ⟨malformation, compiled⟩ := isMalformed_iff.mp malformed
  rw [Option.eq_none_iff_forall_ne_some]
  intro rule serving
  obtain ⟨_, alsoCompiled, _⟩ := serving?_eq_some_iff.mp serving
  cases compiled.symm.trans alsoCompiled

theorem not_overflows_of_isMalformed {stored : StoredRule}
    (malformed : stored.isMalformed = true) : ¬ stored.Overflows := by
  obtain ⟨malformation, compiled⟩ := isMalformed_iff.mp malformed
  intro overflows
  cases compiled.symm.trans (compile_eq_overflow_iff.mpr overflows)

end StoredRule

namespace Selection

/-- The selection with other issues in front of its own. -/
def reporting (selection : Selection) (issues : List Issue) : Selection :=
  { selection with issues := issues ++ selection.issues }

variable {intent : Intent} {rules : List StoredRule}

private theorem forall₂_reports (rules : List StoredRule) :
    List.Forall₂ Reports
      (rules.filter fun stored => stored.isActive && stored.isMalformed)
      (rules.filterMap StoredRule.issue?) := by
  induction rules with
  | nil => exact .nil
  | cons stored rest induction =>
      rw [filterMap_cons_eq]
      cases malformed : stored.isMalformed with
      | false =>
          rw [List.filter_cons_of_neg (by simp [malformed]),
            StoredRule.issue?_eq_none malformed]
          exact induction
      | true =>
          obtain ⟨malformation, compiled⟩ :=
            StoredRule.isMalformed_iff.mp malformed
          cases active : stored.isActive with
          | false =>
              rw [List.filter_cons_of_neg (by simp [active]),
                (StoredRule.unseen_of_inactive active .general).2]
              exact induction
          | true =>
              have told : stored.issue? =
                  some ⟨some stored.id, stored.name, malformation.reason⟩ := by
                simp [StoredRule.issue?, active, compiled]
              rw [List.filter_cons_of_pos (by simp [active, malformed]), told]
              exact .cons ⟨malformation, compiled, rfl⟩ induction

private theorem gather_eq_reporting :
    gather intent rules =
      (gather intent (rules.filter fun stored => !stored.isMalformed)).map
        fun found => found.reporting (rules.filterMap StoredRule.issue?) := by
  induction rules with
  | nil => rfl
  | cons stored rest induction =>
      rw [filterMap_cons_eq]
      cases malformed : stored.isMalformed with
      | true =>
          rw [List.filter_cons_of_neg (by simp [malformed]),
            gather_cons fun _ => StoredRule.not_overflows_of_isMalformed
              malformed,
            StoredRule.serving?_eq_none malformed, induction]
          cases gather intent (rest.filter fun stored => !stored.isMalformed)
            with
          | error overflow => rfl
          | ok found =>
              simp [Except.map, bind, Except.bind, pure, Except.pure, reporting]
      | false =>
          rw [List.filter_cons_of_pos (by simp [malformed]),
            StoredRule.issue?_eq_none malformed]
          by_cases inBounds : stored.isActive = true → ¬ stored.Overflows
          case pos =>
            rw [gather_cons inBounds, gather_cons inBounds,
              StoredRule.issue?_eq_none malformed, induction]
            cases gather intent (rest.filter fun stored => !stored.isMalformed)
              with
            | error overflow => rfl
            | ok found =>
                simp [Except.map, bind, Except.bind, pure, Except.pure,
                reporting]
          case neg =>
            obtain ⟨active, overflows⟩ := Classical.not_imp.mp inBounds
            rw [gather_cons_of_overflows active (not_not.mp overflows),
              gather_cons_of_overflows active (not_not.mp overflows)]
            rfl

private theorem select_eq_reporting :
    select intent rules =
      (select intent (rules.filter fun stored => !stored.isMalformed)).map
        fun selection => selection.reporting
          (rules.filterMap StoredRule.issue?) := by
  unfold select
  rw [gather_eq_reporting]
  cases gather intent (rules.filter fun stored => !stored.isMalformed) <;> rfl

end Selection

namespace Resolution

private theorem link_reporting (known : KnownAccounts) (ids : IdSource)
    (resolution : Resolution) (issues : List Issue) :
    (resolution.reporting issues).link known ids =
      ((resolution.link known ids).1.reporting issues,
        (resolution.link known ids).2) := by
  have linked := linked_link known ids resolution
  generalize resolution.link known ids = outcome at linked
  have otherwise : ∀ {outcome},
      Linked known ids (resolution.reporting issues) outcome →
      (resolution.reporting issues).link known ids = outcome :=
        link_eq_of_linked
  cases linked with
  | noDestination absent => exact otherwise (.noDestination absent)
  | already destined linked => exact otherwise (.already destined linked)
  | unknown destined unlinked refused =>
      rw [otherwise (.unknown destined unlinked refused)]
      simp [withoutDestination, reporting]
  | own destined unlinked allowed same =>
      rw [otherwise (.own destined unlinked allowed same)]
      simp [withoutDestination, reporting]
  | paired destined unlinked allowed apart =>
      exact otherwise (.paired destined unlinked allowed apart)

theorem resolve_of_select {known : KnownAccounts} {ids : IdSource}
    {rules : List StoredRule} {candidate : Candidate} {selection : Selection}
    (selects : Selection.select .general rules = .ok selection) :
    resolve known ids rules candidate =
      (folded known selection.rules candidate).map fun resolution =>
        (resolution.reporting selection.issues).link known ids := by
  simp only [resolve, selected, selects, bind, Except.bind]
  cases folded known selection.rules candidate <;> rfl

/-- Resolving with malformed rules fails as it does without them, or comes to
the same resolution, with one issue for each active malformed rule in front of
the others. -/
theorem resolve_eq_reporting (known : KnownAccounts) (ids : IdSource)
    (rules : List StoredRule) (candidate : Candidate) :
    ∃ issues,
      List.Forall₂ Selection.Reports
        (rules.filter fun stored => stored.isActive && stored.isMalformed)
          issues ∧
      resolve known ids rules candidate =
        (resolve known ids (rules.filter fun stored => !stored.isMalformed)
          candidate).map
          fun outcome => (outcome.1.reporting issues, outcome.2) := by
  refine ⟨rules.filterMap StoredRule.issue?, Selection.forall₂_reports rules,
    ?_⟩
  have whole := @Selection.select_eq_reporting .general rules
  cases selects :
      Selection.select .general (rules.filter fun stored => !stored.isMalformed)
        with
  | error overflow =>
      rw [selects] at whole
      have fails : Selection.select .general rules = .error overflow := whole
      simp only [resolve, selected, selects, fails]
      rfl
  | ok selection =>
      rw [selects] at whole
      rw [resolve_of_select whole, resolve_of_select selects]
      -- The same rules act, so folding comes to the same, and linking looks at
      -- no issue.
      change (folded known selection.rules candidate).map _ = _
      cases folded known selection.rules candidate with
      | error fault => rfl
      | ok resolution =>
          have together : ∀ issues,
              resolution.reporting (selection.reporting issues).issues =
                (resolution.reporting selection.issues).reporting issues :=
            fun issues => by simp [reporting, Selection.reporting]
          simp only [Except.map, together, link_reporting]

end Resolution

end LedgerRules
