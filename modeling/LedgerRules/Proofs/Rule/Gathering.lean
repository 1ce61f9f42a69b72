import LedgerRules.Proofs.Rule.Compiled
import LedgerRules.Proofs.Rule.Overflowing

/-!
# Gathered rules

Gathering goes through the stored rules one by one and keeps nothing between
them, so what it finds is said rule by rule: an active rule that compiles and
serves the intent is kept, one that is malformed leaves an issue, and one whose
pattern overflows lets gathering fail.
-/

namespace LedgerRules

namespace StoredRule

/-- The rule that an active stored rule compiles to. -/
def usable? (stored : StoredRule) : Option Rule :=
  match stored.isActive, stored.compile with
  | true, .ok rule => some rule
  | _, _ => none

/-- The issue that tells of an active stored rule that is malformed. -/
def issue? (stored : StoredRule) : Option Issue :=
  match stored.isActive, stored.compile with
  | true, .error (.malformed malformation) =>
      some ⟨some stored.id, stored.name, malformation.reason⟩
  | _, _ => none

/-- The rule that an active stored rule compiles to, when its kind serves an
intent. -/
def serving? (intent : Intent) (stored : StoredRule) : Option Rule :=
  stored.usable?.filter fun rule => intent.allows rule.kind

theorem usable?_eq_some_iff {stored : StoredRule} {rule : Rule} :
    stored.usable? = some rule ↔
      stored.isActive = true ∧ stored.compile = .ok rule := by
  unfold usable?
  cases stored.isActive <;> cases stored.compile <;> simp

theorem serving?_eq_some_iff {intent : Intent} {stored : StoredRule}
    {rule : Rule} :
    stored.serving? intent = some rule ↔
      stored.isActive = true ∧ stored.compile = .ok rule ∧
      intent.allows rule.kind = true := by
  rw [serving?, Option.filter_eq_some_iff, usable?_eq_some_iff, and_assoc]

private theorem serving?_general : serving? .general = usable? := by
  funext stored
  rw [serving?]
  cases stored.usable? <;> rfl

/-- A rule that is switched off is neither used nor told of. -/
theorem unseen_of_inactive {stored : StoredRule} (off : stored.isActive = false)
    (intent : Intent) :
    stored.serving? intent = none ∧ stored.issue? = none := by
  simp [serving?, usable?, issue?, off]

/-- How a rule whose pattern does not overflow is treated: what it adds to the
rules and to the issues. -/
inductive Treated (intent : Intent) (stored : StoredRule) :
    Option Rule → Option Issue → Prop where
  | off (inactive : stored.isActive = false) : Treated intent stored none none
  | kept {rule : Rule} (active : stored.isActive = true)
      (compiled : stored.compile = .ok rule)
      (serves : intent.allows rule.kind = true) :
        Treated intent stored (some rule) none
  | leftOut {rule : Rule} (active : stored.isActive = true)
      (compiled : stored.compile = .ok rule)
      (otherKind : intent.allows rule.kind = false) :
        Treated intent stored none none
  | reported {malformation : Malformation} (active : stored.isActive = true)
      (compiled : stored.compile = .error (.malformed malformation)) :
      Treated intent stored none
        (some ⟨some stored.id, stored.name, malformation.reason⟩)

theorem treated_of_inBounds {stored : StoredRule}
    (inBounds : stored.isActive = true → ¬ stored.Overflows) (intent : Intent) :
    Treated intent stored (stored.serving? intent) stored.issue? := by
  cases active : stored.isActive with
  | false =>
      obtain ⟨noRule, noIssue⟩ := unseen_of_inactive active intent
      rw [noRule, noIssue]
      exact .off active
  | true =>
      cases compiled : stored.compile with
      | ok rule =>
          have noIssue : stored.issue? = none := by
            simp [issue?, active, compiled]
          rw [noIssue]
          cases serves : intent.allows rule.kind with
          | true =>
              rw [serving?_eq_some_iff.mpr ⟨active, compiled, serves⟩]
              exact .kept active compiled serves
          | false =>
              have noRule : stored.serving? intent = none := by
                simp [serving?, usable?, active, compiled, serves]
              rw [noRule]
              exact .leftOut active compiled serves
      | error fault =>
          cases fault with
          | malformed malformation =>
              have noRule : stored.serving? intent = none := by
                simp [serving?, usable?, active, compiled]
              have issue : stored.issue? =
                  some ⟨some stored.id, stored.name, malformation.reason⟩ := by
                simp [issue?, active, compiled]
              rw [noRule, issue]
              exact .reported active compiled
          | overflow =>
              exact (inBounds active (compile_eq_overflow_iff.mp compiled)).elim

end StoredRule

namespace Selection

variable {intent : Intent}

theorem gather_cons_of_overflows {record : StoredRule}
    (active : record.isActive = true) (overflows : record.Overflows)
    (rest : List StoredRule) :
    gather intent (record :: rest) = .error {} := by
  simp [gather, active, StoredRule.compile_eq_overflow_iff.mpr overflows]

/-- A rule that does not overflow stands in front, when it serves the intent,
and so does its issue, when it is malformed. -/
theorem gather_cons {record : StoredRule}
    (inBounds : record.isActive = true → ¬ record.Overflows)
    (rest : List StoredRule) :
    gather intent (record :: rest) = do
      let found ← gather intent rest
      return ⟨(record.serving? intent).toList ++ found.rules,
        record.issue?.toList ++ found.issues⟩ := by
  have treated := StoredRule.treated_of_inBounds inBounds intent
  generalize record.serving? intent = rule?, record.issue? = issue? at treated ⊢
  cases treated with
  | off inactive =>
      cases gathered : gather intent rest <;> simp [gather, inactive, gathered]
  | kept active compiled serves => simp [gather, active, compiled, serves]
  | leftOut active compiled otherKind =>
      simp [gather, active, compiled, otherKind]
  | reported active compiled => simp [gather, active, compiled]

theorem filterMap_cons_eq {Element Image : Type}
    (image? : Element → Option Image) (first : Element) (rest : List Element) :
    (first :: rest).filterMap image? = (image? first).toList ++
      rest.filterMap image? := by
  cases image : image? first with
  | none => exact List.filterMap_cons_none image
  | some value => exact List.filterMap_cons_some image

/-- Gathering succeeds unless the pattern of an active rule overflows, and keeps
the rules that serve the intent and the issues of the malformed ones. -/
theorem gather_eq_ok_iff {stored : List StoredRule} {selection : Selection} :
    gather intent stored = .ok selection ↔
      (∀ record ∈ stored, record.isActive = true → ¬ record.Overflows) ∧
        selection =
          ⟨stored.filterMap (StoredRule.serving? intent),
            stored.filterMap StoredRule.issue?⟩ := by
  induction stored generalizing selection with
  | nil =>
      constructor
      · rintro ⟨⟩
        exact ⟨nofun, rfl⟩
      · rintro ⟨_, rfl⟩
        rfl
  | cons record rest induction =>
      rw [List.forall_mem_cons, filterMap_cons_eq, filterMap_cons_eq]
      by_cases inBounds : record.isActive = true → ¬ record.Overflows
      case pos =>
        rw [gather_cons inBounds, bind_eq_ok_iff]
        constructor
        · rintro ⟨found, gathered, made⟩
          obtain ⟨restInBounds, rfl⟩ := induction.mp gathered
          cases made
          exact ⟨⟨inBounds, restInBounds⟩, rfl⟩
        · rintro ⟨⟨_, restInBounds⟩, rfl⟩
          exact ⟨_, induction.mpr ⟨restInBounds, rfl⟩, rfl⟩
      case neg =>
        obtain ⟨active, overflows⟩ := Classical.not_imp.mp inBounds
        rw [gather_cons_of_overflows active (Classical.not_not.mp overflows)]
        constructor
        · nofun
        · rintro ⟨⟨first, _⟩, _⟩
          exact (inBounds first).elim

theorem select_intent_eq_ok_iff {stored : List StoredRule}
    {selection : Selection} :
    select intent stored = .ok selection ↔
      (∀ record ∈ stored, record.isActive = true → ¬ record.Overflows) ∧
        selection = ⟨(stored.filterMap (StoredRule.serving? intent)).mergeSort
          Rule.precedes, stored.filterMap StoredRule.issue?⟩ := by
  unfold select
  rw [bind_eq_ok_iff]
  constructor
  · rintro ⟨found, gathered, sorted⟩
    obtain ⟨inBounds, rfl⟩ := gather_eq_ok_iff.mp gathered
    cases sorted
    exact ⟨inBounds, rfl⟩
  · rintro ⟨inBounds, rfl⟩
    exact ⟨_, gather_eq_ok_iff.mpr ⟨inBounds, rfl⟩, rfl⟩

/-- A selected rule is an active stored rule that compiles. -/
theorem mem_of_select {stored : List StoredRule} {selection : Selection}
    (success : select intent stored = .ok selection) {rule : Rule}
    (member : rule ∈ selection.rules) :
    ∃ record ∈ stored, record.isActive = true ∧ record.compile = .ok rule := by
  obtain ⟨_, rfl⟩ := select_intent_eq_ok_iff.mp success
  obtain ⟨record, recordMember, serving⟩ :=
    List.mem_filterMap.mp (List.mem_mergeSort.mp member)
  obtain ⟨active, compiled, _⟩ := StoredRule.serving?_eq_some_iff.mp serving
  exact ⟨record, recordMember, active, compiled⟩

/-- A selected rule has at most one action of each kind. -/
theorem oneOfEachKind_of_select {stored : List StoredRule}
    {selection : Selection} (success : select intent stored = .ok selection)
    {rule : Rule} (member : rule ∈ selection.rules) : rule.OneOfEachKind := by
  obtain ⟨record, _, _, compiled⟩ := mem_of_select success member
  exact StoredRule.oneOfEachKind_of_compile compiled

theorem select_eq_ok_iff {stored : List StoredRule} {selection : Selection} :
    select .general stored = .ok selection ↔
      (∀ record ∈ stored, record.isActive = true → ¬ record.Overflows) ∧
        selection = ⟨(stored.filterMap StoredRule.usable?).mergeSort
          Rule.precedes, stored.filterMap StoredRule.issue?⟩ := by
  rw [select_intent_eq_ok_iff, StoredRule.serving?_general]

/-- Selecting fails in one way only: the pattern of an active rule overflows. -/
theorem select_eq_error_iff {stored : List StoredRule}
    {fault : PatternOverflow} :
    select intent stored = .error fault ↔
      ∃ record ∈ stored, record.isActive = true ∧ record.Overflows := by
  constructor
  · intro failed
    by_contra none
    push Not at none
    rw [select_intent_eq_ok_iff.mpr ⟨none, rfl⟩] at failed
    cases failed
  · rintro ⟨record, member, active, overflows⟩
    cases outcome : select intent stored with
    | error other => rfl
    | ok selection =>
        have inBounds := (select_intent_eq_ok_iff.mp outcome).1
        exact (inBounds record member active overflows).elim

end Selection

end LedgerRules
