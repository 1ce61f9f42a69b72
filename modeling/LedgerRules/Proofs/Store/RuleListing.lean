import LedgerRules.Proofs.Store.PlainRules

/-!
# Listings of rules

Listings look into the table as it was last flushed, and show its rules as they
were edited.  So they show the plain table, on which every call takes effect at
once, as long as no change that waits for a flush matters to them.
-/

namespace LedgerRules

namespace RuleSession

open Store (Compatible NewRule)

/-- A listing shows exactly the rules of a table, in the order of listings. -/
structure Shows (listing rows : List RuleRow) : Prop where
  exactly : listing.Perm rows
  inOrder : listing.Pairwise fun left right => listedBefore left right = true

/-- Rows that a listing takes from the table stay in order when they are shown
as they are seen. -/
def KeepsOrder (session : RuleSession) (rows : List RuleRow) : Prop :=
  (listed rows).Pairwise fun left right =>
    listedBefore (session.seen left) (session.seen right) = true

theorem listedBefore_trans (first second third : RuleRow)
    (left : listedBefore first second = true)
    (right : listedBefore second third = true) :
    listedBefore first third = true := by
  simp only [listedBefore, Bool.or_eq_true, Bool.and_eq_true, decide_eq_true_eq]
    at *
  omega

theorem listedBefore_total (left right : RuleRow) :
    (listedBefore left right || listedBefore right left) = true := by
  simp only [listedBefore, Bool.or_eq_true, Bool.and_eq_true, decide_eq_true_eq]
  omega

section Listings

variable {session : RuleSession}

theorem shows_iff {kept rows : List RuleRow} :
    Shows ((listed kept).map session.seen) rows ↔
      (kept.map session.seen).Perm rows ∧ session.KeepsOrder kept := by
  have sameRows : ((listed kept).map session.seen).Perm
      (kept.map session.seen) :=
    (List.mergeSort_perm kept listedBefore).map session.seen
  constructor
  · rintro ⟨exactly, inOrder⟩
    exact ⟨sameRows.symm.trans exactly, List.pairwise_map.mp inOrder⟩
  · rintro ⟨exactly, inOrder⟩
    exact ⟨sameRows.trans exactly, List.pairwise_map.mpr inOrder⟩

theorem filter_seen_perm_iff (orderly : Orderly session)
    {left right : RuleRow → Bool} :
    ((session.current.rules.filter left).map session.seen).Perm
        ((session.current.rules.filter right).map session.seen) ↔
      ∀ row ∈ session.current.rules, left row = right row := by
  have distinct := nodup_id_of_tabled orderly.holds.current
  constructor
  · intro permutation row member
    have ids := permutation.map RuleRow.id
    simp only [List.map_map, Function.comp_def, id_seen] at ids
    have chosen_iff : ∀ choice : RuleRow → Bool,
        row.id ∈ (session.current.rules.filter choice).map RuleRow.id ↔
          choice row = true := by
      intro choice
      rw [List.mem_map]
      constructor
      · rintro ⟨other, memberOther, same⟩
        obtain ⟨inTable, chosen⟩ := List.mem_filter.mp memberOther
        rwa [← List.inj_on_of_nodup_map distinct inTable member same]
      · intro chosen
        exact ⟨row, List.mem_filter.mpr ⟨member, chosen⟩, rfl⟩
    rw [Bool.eq_iff_iff, ← chosen_iff left, ← chosen_iff right]
    exact ids.mem_iff
  · intro same
    rw [List.filter_congr same]

/-- Listing all rules shows those that remain exactly when no rule is to be
deleted and the edits keep the order. -/
theorem shows_all_iff (orderly : Orderly session) :
    Shows session.all session.remaining ↔
      session.deletions = [] ∧ session.KeepsOrder session.current.rules := by
  rw [all, shows_iff, remaining]
  have everything : session.current.rules =
      session.current.rules.filter fun _ => true :=
    (List.filter_eq_self.mpr fun _ _ => rfl).symm
  nth_rewrite 1 [everything]
  rw [filter_seen_perm_iff orderly, and_congr_left_iff]
  intro _
  constructor
  · intro kept
    rw [List.eq_nil_iff_forall_not_mem]
    intro id deleted
    obtain ⟨row, member, rfl⟩ := List.mem_map.mp (orderly.deletions id deleted)
    have remains := kept row member
    simp [deleted] at remains
  · intro none row _
    simp [none]

theorem shows_active_iff (orderly : Orderly session) :
    Shows session.active (session.remaining.filter RuleRow.isActive) ↔
      (∀ row ∈ session.current.rules,
          row.isActive =
            ((session.seen row).isActive && !session.deletions.contains
              row.id)) ∧
        session.KeepsOrder
          (session.current.rules.filter RuleRow.isActive).reverse := by
  have chosen : ∀ rows : List RuleRow,
      filtered none (some true) rows =
        listed (rows.filter RuleRow.isActive).reverse := by
    intro rows
    simp [filtered, Option.all]
  rw [active, chosen, shows_iff, remaining, List.filter_map, List.filter_filter,
    List.map_reverse, (List.reverse_perm _).congr_left,
    filter_seen_perm_iff orderly]
  rfl

theorem keepsOrder_of_noEdits (none : session.edits = [])
    (rows : List RuleRow) :
    session.KeepsOrder rows := by
  have seen : ∀ row, session.seen row = row := by
    intro row
    rw [RuleSession.seen, none]
    rfl
  simp only [KeepsOrder, seen]
  exact List.pairwise_mergeSort listedBefore_trans listedBefore_total rows

private theorem shows_of_nothingPending (orderly : Orderly session)
    (noEdits : session.edits = []) (noDeletions : session.deletions = []) :
    Shows session.all session.remaining ∧
      Shows session.active (session.remaining.filter RuleRow.isActive) := by
  refine ⟨(shows_all_iff orderly).mpr
    ⟨noDeletions, keepsOrder_of_noEdits noEdits _⟩,
    (shows_active_iff orderly).mpr ⟨?_, keepsOrder_of_noEdits noEdits _⟩⟩
  intro row member
  rw [seen, noEdits, noDeletions]
  exact (Bool.and_true _).symm

end Listings

/-- Whatever is called in a session on a table of compatible rules: once it is
flushed, both listings show the plain table on which every call has taken
effect.  Before that, all rules are shown exactly when no deletion waits for the
flush and the edits keep the order, and the active rules exactly when no change
waits that switches a rule or deletes an active one, and the edits keep the
order. -/
theorem shows_iff_performAll {store : Store}
    (compatible : store.rules.Pairwise Compatible) (calls : List Call) :
    let session := (start store).performAll calls
    let rows := plainlyAll (start store) store.rules calls
    (∀ created after, session.flush [] = .ok (created, after) →
        Shows after.all rows ∧
        Shows after.active (rows.filter RuleRow.isActive)) ∧
      (Shows session.all rows ↔
        session.deletions = [] ∧ session.KeepsOrder session.current.rules) ∧
      (Shows session.active (rows.filter RuleRow.isActive) ↔
        (∀ row ∈ session.current.rules,
            row.isActive =
              ((session.seen row).isActive && !session.deletions.contains
                row.id)) ∧
          session.KeepsOrder
            (session.current.rules.filter RuleRow.isActive).reverse) := by
  intro session rows
  have follows : Follows session rows :=
    (follows_start ⟨fun _ _ => trivial, compatible⟩).performAll calls
  clear_value session rows
  obtain ⟨orderly, rfl⟩ := follows
  refine ⟨?_, shows_all_iff orderly, shows_active_iff orderly⟩
  intro created after flushed
  obtain ⟨noEdits, noDeletions⟩ := nothingPending_of_flush flushed
  have created := (rules_of_flush flushed orderly).2
  rw [List.forall₂_nil_left_iff.mp created] at flushed
  rw [← List.append_nil session.remaining, ← remaining_of_flush flushed orderly]
  exact shows_of_nothingPending (orderly_of_flush flushed orderly) noEdits
    noDeletions

def dinner : NewRule where
  name := some "Dinner"

/-- A rule that is created and made more important, and one that is created,
switched off and deleted. -/
def juggling : List Call :=
  [.create dinner, .create { name := some "Lunch", priority := 1 }, .flush,
    .update "rule-1" { priority := some 2 }, .activate false "rule-2",
    .delete "rule-2"]

theorem shows_iff_performAll_juggling :
    freshStore.rules.Pairwise Compatible ∧
      (plainlyAll (start freshStore) freshStore.rules juggling).map
        (fun row => (row.id, row.priority)) = [("rule-1", 2)] ∧
      ∃ created after,
        ((start freshStore).performAll juggling).flush [] =
          .ok (created, after) ∧
          Shows after.all
            (plainlyAll (start freshStore) freshStore.rules juggling) ∧
          Shows after.active
            ((plainlyAll (start freshStore) freshStore.rules juggling).filter
            RuleRow.isActive) := by
  have compatible : freshStore.rules.Pairwise Compatible := .nil
  have shows := (shows_iff_performAll compatible juggling).1
  obtain ⟨⟨created, after⟩, flushed⟩ : ∃ result,
      ((start freshStore).performAll juggling).flush [] = .ok result := by
    apply eq_ok_of_fault?
    decide +kernel
  refine ⟨compatible, by decide +kernel, created, after, flushed, ?_⟩
  exact shows created after flushed

/-- Two rules are created, and the more important one is made the less important
one. -/
def demoting : List Call :=
  [.create { name := some "Lunch", priority := 1 }, .create dinner,
    .update "rule-1" { priority := some (-1) }]

/-- A rule that was switched off is still listed as active, a deleted rule is
still listed, and a rule that was made less important is still listed in
front. -/
theorem not_shows_unflushed :
    ¬ Shows ((start freshStore).performAll
      [.create dinner, .activate false "rule-1"]).active
        ((plainlyAll (start freshStore) freshStore.rules
          [.create dinner, .activate false "rule-1"]).filter RuleRow.isActive) ∧
      ¬ Shows ((start freshStore).performAll
        [.create dinner, .delete "rule-1"]).all
        (plainlyAll (start freshStore) freshStore.rules
          [.create dinner, .delete "rule-1"]) ∧
      ¬ Shows ((start freshStore).performAll demoting).all
        (plainlyAll (start freshStore) freshStore.rules demoting) := by
  refine ⟨?_, ?_, ?_⟩
  · intro shows
    exact absurd shows.exactly.length_eq (by decide +kernel)
  · intro shows
    exact absurd shows.exactly.length_eq (by decide +kernel)
  · intro shows
    -- The table still has the rules in order, so sorting leaves them as they
    -- are.
    have sorted :
        listed ((start freshStore).performAll demoting).current.rules =
        ((start freshStore).performAll demoting).current.rules := by
      apply List.mergeSort_of_pairwise
      decide +kernel
    have inOrder := shows.inOrder
    rw [all, sorted] at inOrder
    exact absurd inOrder (by decide +kernel)

end RuleSession

end LedgerRules
