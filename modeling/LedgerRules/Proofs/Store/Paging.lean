import LedgerRules.Proofs.Store.RuleListing

/-!
# Pages of rules

A page shows a part of the rules that pass the filters, cut from all of them in
the order of listings.  Pages that are read one after the other, up to the first
empty one, therefore show all these rules, each of them once, and every page
tells how many they are.
-/

namespace LedgerRules

namespace RuleSession

/-- A rule that passes two optional filters. -/
def PassesFilters (ruleType? : Option String) (isActive? : Option Bool)
    (row : RuleRow) : Prop :=
  (∀ ruleType ∈ ruleType?, row.ruleType = ruleType) ∧
    ∀ isActive ∈ isActive?, row.isActive = isActive

instance (ruleType? : Option String) (isActive? : Option Bool) :
    DecidablePred (PassesFilters ruleType? isActive?) :=
  fun _ => inferInstanceAs (Decidable (_ ∧ _))

/-- Whether a rule stands before another one in listings: greater priority
first, then older rules. -/
def StandsBefore (left right : RuleRow) : Prop :=
  right.priority < left.priority ∨
    left.priority = right.priority ∧ left.createdAt < right.createdAt

/-- Rules that differ in their priority or in the time of their creation. -/
def Untied (left right : RuleRow) : Prop :=
  ¬ (left.priority = right.priority ∧ left.createdAt = right.createdAt)

instance : DecidableRel Untied :=
  fun _ _ => inferInstanceAs (Decidable (¬ (_ ∧ _)))

/-- Pages of one size that are read one after the other from a number on, up to
the first empty page.  All of them tell the same total. -/
inductive Browses (session : RuleSession) (ruleType? : Option String)
    (isActive? : Option Bool) (size total : ℕ) :
    ℕ → List (List RuleRow) → Prop where
  | past {number : ℕ}
      (page : session.page ruleType? isActive? number size = .ok ([], total)) :
      Browses session ruleType? isActive? size total number []
  | page {number : ℕ} {rows : List RuleRow} {later : List (List RuleRow)}
      (page : session.page ruleType? isActive? number size = .ok (rows, total))
      (shows : rows ≠ [])
      (browses : Browses session ruleType? isActive? size total
        (number + 1) later) :
      Browses session ruleType? isActive? size total number (rows :: later)

section Filtered

variable {ruleType? : Option String} {isActive? : Option Bool}
  {rows : List RuleRow}

theorem filtered_perm (ruleType? : Option String) (isActive? : Option Bool)
    (rows : List RuleRow) :
    (filtered ruleType? isActive? rows).Perm
      (rows.filter fun row => PassesFilters ruleType? isActive? row) := by
  have kept : rows.filter (fun row =>
      ruleType?.all (row.ruleType = ·) && isActive?.all (row.isActive = ·)) =
      rows.filter fun row => PassesFilters ruleType? isActive? row := by
    apply List.filter_congr
    intro row _
    cases ruleType? <;> cases isActive? <;> simp [PassesFilters]
  unfold filtered
  rw [kept]
  refine (List.mergeSort_perm _ listedBefore).trans ?_
  cases isActive? with
  | some isActive => exact List.reverse_perm _
  | none =>
      cases ruleType? with
      | some ruleType => exact List.mergeSort_perm _ accountBefore
      | none => exact .refl _

private theorem filtered_pairwise (ruleType? : Option String)
    (isActive? : Option Bool) (rows : List RuleRow) :
    (filtered ruleType? isActive? rows).Pairwise fun left right =>
      listedBefore left right = true :=
  List.pairwise_mergeSort listedBefore_trans listedBefore_total _

theorem standsBefore_of_listedBefore {left right : RuleRow}
    (inOrder : listedBefore left right = true) (untied : Untied left right) :
    StandsBefore left right := by
  simp only [listedBefore, Bool.or_eq_true, Bool.and_eq_true, decide_eq_true_eq]
    at inOrder
  rw [Untied] at untied
  rw [StandsBefore]
  omega

private theorem filtered_standsBefore (untied : rows.Pairwise Untied)
    (ruleType? : Option String) (isActive? : Option Bool) :
    (filtered ruleType? isActive? rows).Pairwise StandsBefore := by
  have symmetric : ∀ {left right : RuleRow}, Untied left right →
      Untied right left := by
    rintro left right untied ⟨priority, createdAt⟩
    exact untied ⟨priority.symm, createdAt.symm⟩
  have stillUntied : (filtered ruleType? isActive? rows).Pairwise Untied :=
    (List.Perm.pairwise_iff symmetric
      (filtered_perm ruleType? isActive? rows)).mpr
      (untied.sublist List.filter_sublist)
  exact ((filtered_pairwise ruleType? isActive? rows).and stillUntied).imp
    fun both => standsBefore_of_listedBefore both.1 both.2

end Filtered

section Pages

variable {session : RuleSession} {ruleType? : Option String}
  {isActive? : Option Bool} {listing : List RuleRow} {size : ℕ}

theorem storedInt_of_lt {number : ℕ} (inRange : number < 2 ^ 63) :
    Store.storedInt number = .ok (number : ℤ) := by
  rw [Store.storedInt, if_pos]
  simp only [Date.fitsInteger, Nat.pow_eq, Bool.and_eq_true, decide_eq_true_eq]
  omega

theorem page_eq (noEdits : session.edits = [])
    (filters : filtered ruleType? isActive? session.current.rules = listing)
    (sizeInRange : size < 2 ^ 63) {before : ℕ}
    (inRange : before * size < 2 ^ 63) :
    session.page ruleType? isActive? (before + 1 : ℕ) size =
      .ok ((listing.drop (before * size)).take size, listing.length) := by
  have seen : session.seen = id := by
    funext row
    rw [RuleSession.seen, noEdits]
    rfl
  have offset : (((before + 1 : ℕ) : ℤ) - 1) * size =
      ((before * size : ℕ) : ℤ) := by
    push_cast
    ring
  have sized : ¬ (size : ℤ) < 0 := by omega
  unfold page
  rw [offset, storedInt_of_lt inRange, storedInt_of_lt sizeInRange, seen,
    filters]
  simp only [bind, Except.bind, pure, Except.pure, if_neg sized,
    Int.toNat_natCast, List.map_id]

private theorem exists_browses (noEdits : session.edits = [])
    (filters : filtered ruleType? isActive? session.current.rules = listing)
    (positive : 0 < size) (sizeInRange : size < 2 ^ 63) (left before : ℕ)
    (enough : listing.length ≤ (before + left) * size)
    (inRange : (before + left) * size < 2 ^ 63) :
    ∃ pages, Browses session ruleType? isActive? size listing.length
      (before + 1) pages ∧
      pages.flatten = listing.drop (before * size) := by
  -- `left` more pages are enough, so the induction ends at a page that is past
  -- all rules.
  induction left generalizing before with
  | zero =>
      have none := List.drop_eq_nil_of_le enough
      have page := page_eq noEdits filters sizeInRange inRange
      rw [none, List.take_nil] at page
      exact ⟨[], .past page, none.symm⟩
  | succ left induction =>
      have reached : before * size ≤ (before + (left + 1)) * size :=
        Nat.mul_le_mul_right size (Nat.le_add_right before (left + 1))
      have page := page_eq noEdits filters sizeInRange
        (reached.trans_lt inRange)
      by_cases none : listing.drop (before * size) = []
      case pos =>
        rw [none, List.take_nil] at page
        exact ⟨[], .past page, none.symm⟩
      case neg =>
        have next : before + 1 + left = before + (left + 1) := by omega
        obtain ⟨pages, browses, shown⟩ :=
          induction (before + 1) (next ▸ enough) (next ▸ inRange)
        refine ⟨_, .page page ?_ browses, ?_⟩
        · rw [Ne, List.take_eq_nil_iff]
          rintro (zero | empty)
          · exact positive.ne' zero
          · exact none empty
        · rw [List.flatten_cons, shown, Nat.succ_mul, ← List.drop_drop,
            List.take_append_drop]

end Pages

/-- Whatever rules a flushed table has, as long as no two of them share both
priority and time of creation, and whatever the filters and the size of pages:
the pages from the first one up to the first empty one show the rules that pass
the filters, each of them once and in the order of listings.  Every page, also a
later one, tells how many these rules are.  Offsets are numbers of 64 bits. -/
theorem browses_filtered {session : RuleSession} (noEdits : session.edits = [])
    (untied : session.current.rules.Pairwise Untied) (ruleType? : Option String)
    (isActive? : Option Bool) {size : ℕ} (positive : 0 < size)
    (sizeInRange : size < 2 ^ 63) :
    let wanted := session.current.rules.filter fun row =>
      PassesFilters ruleType? isActive? row
    (∀ count, wanted.length ≤ count * size → count * size < 2 ^ 63 →
        ∃ pages, Browses session ruleType? isActive? size wanted.length 1
          pages ∧
          pages.flatten.Perm wanted ∧ pages.flatten.Pairwise StandsBefore) ∧
      ∀ before, before * size < 2 ^ 63 →
        ∃ rows, session.page ruleType? isActive? (before + 1 : ℕ) size =
          .ok (rows, wanted.length) := by
  intro wanted
  have wantedRules := filtered_perm ruleType? isActive? session.current.rules
  have sameLength :
      (filtered ruleType? isActive? session.current.rules).length =
      wanted.length :=
    wantedRules.length_eq
  constructor
  · intro count enough inRange
    rw [← Nat.zero_add count] at enough inRange
    obtain ⟨pages, browses, shown⟩ :=
      exists_browses noEdits rfl positive sizeInRange count 0
        (sameLength ▸ enough) inRange
    rw [Nat.zero_mul, List.drop_zero] at shown
    rw [sameLength] at browses
    refine ⟨pages, browses, ?_, ?_⟩
    · rw [shown]
      exact wantedRules
    · rw [shown]
      exact filtered_standsBefore untied ruleType? isActive?
  · intro before inRange
    rw [← sameLength]
    exact ⟨_, page_eq noEdits rfl sizeInRange inRange⟩

/-- Four rules, one of which is a rule for transfers and two of which have the
same priority. -/
def menu : List Call :=
  [.create { name := some "Lunch", priority := 1 },
    .create { name := some "Dinner" },
    .create {
      name := some "Rent", priority := 5, ruleType := RuleKind.transfer.text },
    .create { name := some "Breakfast", priority := 1 }, .commit]

/-- The general ones among them are shown on two pages of two rules. -/
theorem browses_filtered_menu :
    ((start freshStore).performAll menu).current.rules.Pairwise Untied ∧
      ∃ pages, Browses ((start freshStore).performAll menu) (some "general")
        (some true) 2 3 1
          pages ∧
        pages.flatten.Pairwise StandsBefore ∧
        (pages.flatten.map RuleRow.id).Perm ["rule-1", "rule-2", "rule-4"] := by
  have untied : ((start freshStore).performAll menu).current.rules.Pairwise
      Untied := by
    decide +kernel
  have noEdits : ((start freshStore).performAll menu).edits = [] := by
    decide +kernel
  have wanted :
      (((start freshStore).performAll menu).current.rules.filter fun row =>
      PassesFilters (some "general") (some true) row).map RuleRow.id =
        ["rule-1", "rule-2", "rule-4"] := by
    decide +kernel
  have total := congrArg List.length wanted
  rw [List.length_map] at total
  have browsed :=
    (browses_filtered noEdits untied (some "general") (some true) two_pos
    (by norm_num)).1 2 (by rw [total]; decide) (by norm_num)
  obtain ⟨pages, browses, exactly, inOrder⟩ := browsed
  rw [total] at browses
  exact ⟨untied, pages, browses, inOrder, wanted ▸ exactly.map RuleRow.id⟩

end RuleSession

end LedgerRules
