import LedgerRules.Proofs.Resolution.Answering
import LedgerRules.Proofs.Rule.Ordering

/-!
# Reordered rules

Rules are sorted before they act, and the sort key tells rules of distinct
identifiers apart.  So the order in which rules are handed in decides on the
order of the issues only, and rules that are switched off decide on nothing.
-/

namespace LedgerRules

/-- Another list has the rules of a list in some order, among rules that are
switched off. -/
def Reorders (rules other : List StoredRule) : Prop :=
  ∃ switchedOff, (∀ stored ∈ switchedOff, stored.isActive = false) ∧
    other.Perm (rules ++ switchedOff)

namespace Reorders

variable {rules other : List StoredRule}

theorem filterMap_perm {Image : Type} (image? : StoredRule → Option Image)
    (unseen : ∀ stored : StoredRule, stored.isActive = false →
      image? stored = none)
    (reorders : Reorders rules other) :
    (other.filterMap image?).Perm (rules.filterMap image?) := by
  obtain ⟨switchedOff, off, permutation⟩ := reorders
  have none : switchedOff.filterMap image? = [] :=
    List.filterMap_eq_nil_iff.mpr fun stored member =>
      unseen stored (off stored member)
  have mapped := permutation.filterMap image?
  rwa [List.filterMap_append, none, List.append_nil] at mapped

theorem active_iff (reorders : Reorders rules other) {stored : StoredRule}
    (active : stored.isActive = true) : stored ∈ other ↔ stored ∈ rules := by
  obtain ⟨switchedOff, off, permutation⟩ := reorders
  rw [permutation.mem_iff, List.mem_append, or_iff_left]
  intro member
  rw [off stored member] at active
  cases active

end Reorders

namespace Selection

variable {intent : Intent}

/-- An issue tells of a stored rule that is malformed. -/
def Reports (stored : StoredRule) (issue : Issue) : Prop :=
  ∃ malformation, stored.compile = .error (.malformed malformation) ∧
    issue = ⟨some stored.id, stored.name, malformation.reason⟩

/-- The stored rules fall into those that were selected, those that an issue
tells of, and those that are well formed but of a kind that the intent leaves
out. -/
structure FallsInto (intent : Intent) (selection : Selection)
    (rules selected reported leftOut : List StoredRule) : Prop where
  together : rules.Perm (selected ++ reported ++ leftOut)
  selected : List.Forall₂ (fun stored rule =>
    stored.compile = .ok rule ∧ intent.allows rule.kind = true) selected
      selection.rules
  reported : List.Forall₂ Reports reported selection.issues
  leftOut : ∀ stored ∈ leftOut, ∃ rule,
    stored.compile = .ok rule ∧ intent.allows rule.kind = false

/-- A selection accounts for each active rule exactly once. -/
def AccountsFor (intent : Intent) (rules : List StoredRule)
    (selection : Selection) : Prop :=
  ∃ selected reported leftOut,
    FallsInto intent selection (rules.filter StoredRule.isActive) selected
      reported leftOut

theorem accountsFor_gathered {rules : List StoredRule}
    (inBounds : ∀ stored ∈ rules, stored.isActive = true → ¬ stored.Overflows) :
    AccountsFor intent rules
      ⟨rules.filterMap (StoredRule.serving? intent),
        rules.filterMap StoredRule.issue?⟩ := by
  induction rules with
  | nil => exact ⟨[], [], [], List.Perm.nil, .nil, .nil, nofun⟩
  | cons stored rest induction =>
      obtain ⟨first, later⟩ := List.forall_mem_cons.mp inBounds
      obtain ⟨kept, told, omitted, together, selected, reported, leftOut⟩ :=
        induction later
      have treated := StoredRule.treated_of_inBounds first intent
      rw [filterMap_cons_eq, filterMap_cons_eq]
      generalize stored.serving? intent = rule?, stored.issue? = issue?
        at treated ⊢
      unfold AccountsFor
      -- a rule that is switched off is passed over, any other one joins one of
      -- the three parts
      cases treated with
      | off inactive =>
          rw [List.filter_cons_of_neg (by simp [inactive])]
          exact ⟨kept, told, omitted, together, selected, reported, leftOut⟩
      | kept active compiled serves =>
          rw [List.filter_cons_of_pos active]
          exact ⟨stored :: kept, told, omitted, together.cons stored,
            .cons ⟨compiled, serves⟩ selected, reported, leftOut⟩
      | leftOut active compiled otherKind =>
          rw [List.filter_cons_of_pos active]
          exact ⟨kept, told, stored :: omitted,
            (together.cons stored).trans List.perm_middle.symm, selected,
            reported,
            List.forall_mem_cons.mpr ⟨⟨_, compiled, otherKind⟩, leftOut⟩⟩
      | reported active compiled =>
          rw [List.filter_cons_of_pos active]
          exact ⟨kept, stored :: told, omitted,
            (together.cons stored).trans
              (List.perm_middle.symm.append_right omitted), selected,
            .cons ⟨_, compiled, rfl⟩ reported, leftOut⟩

theorem AccountsFor.of_perm {rules : List StoredRule} {selection : Selection}
    {sorted : List Rule} (accounts : AccountsFor intent rules selection)
    (permutation : selection.rules.Perm sorted) :
    AccountsFor intent rules { selection with rules := sorted } := by
  obtain ⟨kept, told, omitted, together, selected, reported, leftOut⟩ :=
    accounts
  have composed :
      Relation.Comp (List.Forall₂ fun (stored : StoredRule) (rule : Rule) =>
      stored.compile = .ok rule ∧ intent.allows rule.kind = true) List.Perm kept
        sorted :=
    ⟨selection.rules, selected, permutation⟩
  rw [List.forall₂_comp_perm_eq_perm_comp_forall₂] at composed
  obtain ⟨reordered, sameKept, selected⟩ := composed
  refine ⟨reordered, told, omitted, ?_, selected, reported, leftOut⟩
  exact together.trans ((sameKept.append_right told).append_right omitted)

theorem nodup_id_serving (intent : Intent) {rules : List StoredRule}
    (apart : (rules.map StoredRule.id).Nodup) :
    ((rules.filterMap (StoredRule.serving? intent)).map Rule.id).Nodup := by
  refine List.Nodup.sublist ?_ apart
  induction rules with
  | nil => exact List.Sublist.refl []
  | cons stored rest induction =>
      rw [filterMap_cons_eq, List.map_append, List.map_cons]
      have later := induction (List.nodup_cons.mp apart).2
      cases serving : stored.serving? intent with
      | none => exact later.cons stored.id
      | some rule =>
          obtain ⟨_, compiled, _⟩ := StoredRule.serving?_eq_some_iff.mp serving
          rw [← StoredRule.id_of_compile compiled]
          exact later.cons_cons rule.id

/-- How selecting from two lists compares: both fail as a pattern overflows, or
both select the same rules in the same order, with the same issues in some
order. -/
inductive SelectedAlike (intent : Intent)
    (rules other : List StoredRule) : Prop where
  | overflow {stored : StoredRule} (member : stored ∈ rules)
      (active : stored.isActive = true)
      (overflows : stored.Overflows) (fails : select intent rules = .error {})
      (otherFails : select intent other = .error {})
  | selected {selection : Selection} {issues : List Issue}
      (inBounds : ∀ stored ∈ rules, stored.isActive = true → ¬ stored.Overflows)
      (selects : select intent rules = .ok selection)
      (otherSelects : select intent other = .ok { selection with issues })
      (sameIssues : issues.Perm selection.issues)
      (sorted : selection.rules.Pairwise fun left right => left.order right =
        .lt)
      (accounted : AccountsFor intent rules selection)

theorem selectedAlike_of_reorders {rules other : List StoredRule}
    (apart : (rules.map StoredRule.id).Nodup)
    (reorders : Reorders rules other) :
    SelectedAlike intent rules other := by
  have serving := reorders.filterMap_perm (StoredRule.serving? intent)
    fun stored off => (StoredRule.unseen_of_inactive off intent).1
  have issues := reorders.filterMap_perm StoredRule.issue?
    fun stored off => (StoredRule.unseen_of_inactive off intent).2
  have distinct := nodup_id_serving intent apart
  by_cases overflow : ∃ stored ∈ rules, stored.isActive = true ∧
    stored.Overflows
  case pos =>
    obtain ⟨stored, member, active, overflows⟩ := overflow
    exact .overflow member active overflows
      (select_eq_error_iff.mpr ⟨stored, member, active, overflows⟩)
      (select_eq_error_iff.mpr
        ⟨stored, (reorders.active_iff active).mpr member, active, overflows⟩)
  case neg =>
    have inBounds : ∀ stored ∈ rules, stored.isActive = true →
        ¬ stored.Overflows :=
      fun stored member active overflows =>
        overflow ⟨stored, member, active, overflows⟩
    refine .selected inBounds (select_intent_eq_ok_iff.mpr ⟨inBounds, rfl⟩)
      (select_intent_eq_ok_iff.mpr ⟨?_, ?_⟩) issues
        (Rule.pairwise_order_mergeSort distinct)
      ((accountsFor_gathered inBounds).of_perm (List.mergeSort_perm _ _).symm)
    · intro stored member active
      exact inBounds stored ((reorders.active_iff active).mp member) active
    · rw [Rule.mergeSort_eq_of_perm distinct serving]

end Selection

namespace Resolution

/-- Outcomes that agree but for the order of the issues and for the identifier
of a new transfer, which each takes from its own source. -/
inductive SameButForOrder (ids otherIds : IdSource) :
    Except ResolutionFault (Resolution × IdSource) →
      Except ResolutionFault (Resolution × IdSource) → Prop where
  | failed (fault : ResolutionFault) : SameButForOrder ids otherIds
      (.error fault) (.error fault)
  | unpaired (resolution : Resolution) {issues : List Issue}
      (sameIssues : issues.Perm resolution.issues) :
      SameButForOrder ids otherIds (.ok (resolution, ids))
        (.ok ({ resolution with issues }, otherIds))
  | paired (resolution : Resolution) {request : TransferRequest}
      {issues : List Issue}
      (transferId : resolution.transferId = some ids.next.1)
      (requested : resolution.transferRequest = some request)
      (requestId : request.transferId = ids.next.1)
      (sameIssues : issues.Perm resolution.issues) :
      SameButForOrder ids otherIds (.ok (resolution, ids.next.2))
        (.ok ({ resolution with
            issues
            transferId := some otherIds.next.1
            transferRequest :=
              some { request with transferId := otherIds.next.1 } },
          otherIds.next.2))

private theorem sameButForOrder_link (known : KnownAccounts)
    (ids otherIds : IdSource) (resolution : Resolution) {issues : List Issue}
    (sameIssues : issues.Perm resolution.issues) :
    SameButForOrder ids otherIds (.ok (resolution.link known ids))
      (.ok ({ resolution with issues }.link known otherIds)) := by
  have linked := linked_link known ids resolution
  generalize resolution.link known ids = outcome at linked
  have otherwise : ∀ {outcome},
      Linked known otherIds { resolution with issues } outcome →
      { resolution with issues }.link known otherIds = outcome :=
        link_eq_of_linked
  cases linked with
  | noDestination absent =>
      rw [otherwise (.noDestination absent)]
      exact .unpaired _ sameIssues
  | already destined linked =>
      rw [otherwise (.already destined linked)]
      exact .unpaired _ sameIssues
  | unknown destined unlinked refused =>
      rw [otherwise (.unknown destined unlinked refused)]
      exact .unpaired _ (sameIssues.append_right _)
  | own destined unlinked allowed same =>
      rw [otherwise (.own destined unlinked allowed same)]
      exact .unpaired _ (sameIssues.append_right _)
  | paired destined unlinked allowed apart =>
      rw [otherwise (.paired destined unlinked allowed apart)]
      exact .paired
        { resolution with
          type := transferType
          transferId := some ids.next.1
          transferRequest := some (resolution.otherHalf ids.next.1 _) }
        rfl rfl rfl sameIssues

private theorem sameButForOrder_resolve {rules other : List StoredRule}
    (alike : Selection.SelectedAlike .general rules other)
    (known : KnownAccounts) (ids otherIds : IdSource) (candidate : Candidate) :
    SameButForOrder ids otherIds (resolve known ids rules candidate)
      (resolve known otherIds other candidate) := by
  cases alike with
  | overflow _ _ _ fails otherFails =>
      simp only [resolve, selected, fails, otherFails]
      exact .failed .overflow
  | @selected selection issues _ selects otherSelects sameIssues =>
      simp only [resolve, selected, selects, otherSelects]
      cases folding : folded known selection.rules candidate with
      | error fault =>
          simp only [folding, bind, Except.bind]
          exact .failed fault
      | ok resolution =>
          simp only [folding, bind, Except.bind]
          exact sameButForOrder_link known ids otherIds
            { resolution with issues := selection.issues ++ resolution.issues }
            (sameIssues.append_right resolution.issues)

def oddRule : StoredRule where
  id := "odd"
  name := "Odd"
  ruleType := "odd"

def vagueRule : StoredRule where
  id := "vague"
  name := "Vague"
  logic := "xor"

/-- A dated rule that links to another account. -/
def savingRule : StoredRule where
  id := "saving"
  name := "Saving"
  ruleType := "transfer"
  actions := .obj [("set_category", .str "savings")]
  transferTo := some "reserve"
  createdAt := some ⟨0, none⟩

private theorem reorders_moved :
    Reorders [oddRule, vagueRule, savingRule]
      [vagueRule, { countless with isActive := false }, savingRule,
        oddRule] := by
  refine ⟨[{ countless with isActive := false }], by simp, ?_⟩
  calc [vagueRule, { countless with isActive := false }, savingRule, oddRule]
    _ = [vagueRule] ++ { countless with isActive := false } ::
      [savingRule, oddRule] := rfl
    List.Perm _ ({ countless with isActive := false } ::
      [vagueRule, savingRule, oddRule]) :=
        List.perm_middle
    List.Perm _ ({ countless with isActive := false } ::
      [oddRule, vagueRule, savingRule]) :=
        (List.perm_append_singleton oddRule [vagueRule, savingRule]).cons _
    List.Perm _ ([oddRule, vagueRule, savingRule] ++
      [{ countless with isActive := false }]) :=
        (List.perm_append_singleton _ _).symm

/-- Category, transfer identifier and issues of an outcome. -/
def glance (outcome : Except ResolutionFault (Resolution × IdSource)) :
    Option (Option String × Option String × List String) :=
  outcome.toOption.map fun result =>
    (result.1.categoryId, result.1.transferId,
      result.1.issues.map Issue.ruleName)

end Resolution

end LedgerRules
