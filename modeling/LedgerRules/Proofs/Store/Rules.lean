import LedgerRules.Proofs.Outcomes
import LedgerRules.Store.RuleSession

/-!
# The table of rules

A rule that is inserted stands behind the others, has an identifier of its own
and clashes with none of them; writing over a rule and removing rules keep all
others as they are.  So identifiers stay unique and no two rules clash, whatever
is done in a session and whenever it is flushed.
-/

namespace LedgerRules

namespace Store

/-- What a successful insertion of a rule does. -/
structure InsertedRule (new : NewRule) (store : Store) (row : RuleRow)
    (after : Store) : Prop where
  ruleType : row.ruleType = new.ruleType
  conditions : row.conditions = new.conditions
  actions : row.actions = new.actions
  detectedAccount : row.detectedAccount = new.detectedAccount
  ownId : ∀ other ∈ store.rules, other.id ≠ row.id
  apart : ∀ other ∈ store.rules, clash other row = false
  rules : after.rules = store.rules ++ [row]

theorem insertedRule_of_insertRule {new : NewRule} {store after : Store}
    {row : RuleRow} (success : store.insertRule new = .ok (row, after)) :
    InsertedRule new store row after := by
  obtain ⟨priority, _, success⟩ := bind_eq_ok_iff.mp success
  obtain ⟨_, _, success⟩ := bind_eq_ok_iff.mp success
  obtain ⟨name, _, success⟩ := bind_eq_ok_iff.mp success
  dsimp only at success
  split at success
  case isTrue => cases success
  case isFalse free =>
    cases success
    have all := List.any_eq_false.mp (Bool.eq_false_iff.mpr free)
    refine ⟨rfl, rfl, rfl, rfl, ?_, ?_, rfl⟩
    · intro other member same
      exact all other member (by simp [same])
    · intro other member
      have kept := all other member
      simp only [Bool.or_eq_true, not_or] at kept
      exact Bool.eq_false_iff.mpr kept.2

/-- Two rules that may stand in the table together. -/
structure Compatible (left right : RuleRow) : Prop where
  ids : left.id ≠ right.id
  apart : clash left right = false

theorem clash_comm (left right : RuleRow) :
    clash left right = clash right left := by
  rw [Bool.eq_iff_iff]
  simp only [clash, Bool.and_eq_true, decide_eq_true_eq]
  constructor
  · rintro ⟨⟨detects, account⟩, type⟩
    exact ⟨⟨account ▸ detects, account.symm⟩, type.symm⟩
  · rintro ⟨⟨detects, account⟩, type⟩
    exact ⟨⟨account ▸ detects, account.symm⟩, type.symm⟩

/-- The rules of a table that has been filled by insertions: each of them is
lawful, and all may stand together. -/
structure Tabled (lawful : RuleRow → Prop) (store : Store) : Prop where
  rows : ∀ row ∈ store.rules, lawful row
  compatible : store.rules.Pairwise Compatible

/-- All rows that a new rule can be inserted as are lawful. -/
def NewRule.Yields (lawful : RuleRow → Prop) (new : NewRule) : Prop :=
  ∀ row : RuleRow, row.ruleType = new.ruleType → row.actions = new.actions →
    row.detectedAccount = new.detectedAccount → lawful row

section Tables

variable {lawful : RuleRow → Prop} {store after : Store}

theorem Tabled.congr (tabled : Tabled lawful store)
    (same : after.rules = store.rules) :
    Tabled lawful after := by
  constructor
  · rw [same]
    exact tabled.rows
  · rw [same]
    exact tabled.compatible

theorem tabled_of_empty (empty : store.rules = []) : Tabled lawful store := by
  constructor
  · intro row member
    rw [empty] at member
    cases member
  · rw [empty]
    exact .nil

theorem InsertedRule.tabled {new : NewRule} {row : RuleRow}
    (inserted : InsertedRule new store row after) (tabled : Tabled lawful store)
    (isLawful : lawful row) : Tabled lawful after := by
  constructor
  · intro other member
    rw [inserted.rules, List.mem_append] at member
    rcases member with old | new
    · exact tabled.rows other old
    · rw [List.mem_singleton.mp new]
      exact isLawful
  · rw [inserted.rules, List.pairwise_append]
    refine ⟨tabled.compatible, List.pairwise_singleton _ _, ?_⟩
    intro other member new memberNew
    rw [List.mem_singleton.mp memberNew]
    exact ⟨inserted.ownId other member, inserted.apart other member⟩

theorem tabled_of_insertRules {news : List NewRule} {rows : List RuleRow}
    (success : store.insertRules news = .ok (rows, after))
    (tabled : Tabled lawful store) (lawfuls : ∀ new ∈ news, new.Yields lawful) :
    Tabled lawful after := by
  induction news generalizing store rows with
  | nil =>
      cases success
      exact tabled
  | cons new rest induction =>
      obtain ⟨⟨row, between⟩, inserting, success⟩ := bind_eq_ok_iff.mp success
      obtain ⟨⟨others, last⟩, insertingRest, success⟩ :=
        bind_eq_ok_iff.mp success
      cases success
      have inserted := insertedRule_of_insertRule inserting
      have isLawful := lawfuls new List.mem_cons_self row inserted.ruleType
        inserted.actions
        inserted.detectedAccount
      refine induction insertingRest (inserted.tabled tabled isLawful) ?_
      intro other member
      exact lawfuls other (List.mem_cons_of_mem new member)

theorem tabled_of_updateRule {row : RuleRow}
    (success : store.updateRule row = .ok after) (tabled : Tabled lawful store)
    (isLawful : lawful row) : Tabled lawful after := by
  obtain ⟨_, _, success⟩ := bind_eq_ok_iff.mp success
  dsimp only at success
  split at success
  case isTrue => cases success
  case isFalse free =>
    cases success
    have all := List.any_eq_false.mp (Bool.eq_false_iff.mpr free)
    have apart : ∀ other ∈ store.rules, other.id ≠ row.id →
        clash other row = false := by
      intro other member different
      have kept := all other member
      simp only [ne_eq, different, not_false_eq_true, decide_true,
        Bool.true_and] at kept
      exact Bool.eq_false_iff.mpr kept
    constructor
    · intro other member
      obtain ⟨source, memberSource, rfl⟩ := List.mem_map.mp member
      split
      · exact isLawful
      · exact tabled.rows source memberSource
    · rw [List.pairwise_map]
      refine tabled.compatible.imp_of_mem ?_
      intro left right memberLeft memberRight compatible
      -- Identifiers differ, so at most one of the two rules is the one written
      -- over.
      by_cases leftWritten : left.id = row.id
      · have rightKept : right.id ≠ row.id := fun same =>
          compatible.ids (leftWritten.trans same.symm)
        rw [if_pos leftWritten, if_neg rightKept]
        refine ⟨rightKept.symm, ?_⟩
        rw [clash_comm]
        exact apart right memberRight rightKept
      · rw [if_neg leftWritten]
        by_cases rightWritten : right.id = row.id
        · rw [if_pos rightWritten]
          exact ⟨leftWritten, apart left memberLeft leftWritten⟩
        · rw [if_neg rightWritten]
          exact compatible

theorem tabled_removeRule (id : String) (tabled : Tabled lawful store) :
    Tabled lawful (store.removeRule id) where
  rows row member := tabled.rows row (List.mem_of_mem_filter member)
  compatible := tabled.compatible.filter _

end Tables

end Store

namespace RuleSession

open Store (Tabled NewRule)

variable {lawful : RuleRow → Prop} {session : RuleSession}

theorem tabled_of_writeEdits {edits : List RuleRow} {store after : Store}
    (success : writeEdits edits store = .ok after)
    (tabled : Tabled lawful store) (lawfuls : ∀ row ∈ edits, lawful row) :
    Tabled lawful after := by
  induction edits generalizing store with
  | nil =>
      cases success
      exact tabled
  | cons row rest induction =>
      obtain ⟨between, writing, success⟩ := bind_eq_ok_iff.mp success
      refine induction success (Store.tabled_of_updateRule writing tabled
        (lawfuls row List.mem_cons_self)) ?_
      intro other member
      exact lawfuls other (List.mem_cons_of_mem row member)

private theorem tabled_of_removals {store : Store}
    (tabled : Tabled lawful store) (deletions : List String) :
    Tabled lawful
      (deletions.foldl (fun store id => store.removeRule id) store) := by
  induction deletions generalizing store with
  | nil => exact tabled
  | cons id rest induction =>
      exact induction (Store.tabled_removeRule id tabled)

/-- What a session holds of rules: its tables and its edits are lawful. -/
structure Holds (lawful : RuleRow → Prop) (session : RuleSession) : Prop where
  committed : Tabled lawful session.committed
  current : Tabled lawful session.current
  edits : ∀ row ∈ session.edits, lawful row

theorem holds_start {store : Store} (tabled : Tabled lawful store) :
    Holds lawful (.start store) := by
  refine ⟨tabled, tabled, ?_⟩
  intro row member
  cases member

/-- Flushing keeps a session lawful, when the new rules are. -/
theorem holds_of_flush {news : List NewRule} {rows : List RuleRow}
    {after : RuleSession} (success : session.flush news = .ok (rows, after))
    (holds : Holds lawful session) (lawfuls : ∀ new ∈ news, new.Yields lawful) :
    Holds lawful after := by
  obtain ⟨written, writing, success⟩ := bind_eq_ok_iff.mp success
  obtain ⟨⟨others, filled⟩, inserting, success⟩ := bind_eq_ok_iff.mp success
  cases success
  -- Edits are written first, then the new rules are inserted, then rules are
  -- removed.
  have edited := tabled_of_writeEdits writing holds.current (by
    intro row member
    exact holds.edits row
      (List.mem_of_mem_filter (List.mem_mergeSort.mp member)))
  have current :=
    tabled_of_removals (Store.tabled_of_insertRules inserting edited lawfuls)
    session.deletions
  refine ⟨holds.committed, current, ?_⟩
  intro row member
  cases member

theorem holds_of_commit {after : RuleSession}
    (success : session.commit = .ok after) (holds : Holds lawful session) :
    Holds lawful after := by
  obtain ⟨⟨rows, flushed⟩, flushing, success⟩ := bind_eq_ok_iff.mp success
  cases success
  refine holds_start (holds_of_flush flushing holds ?_).current
  intro new member
  cases member

/-- The rule that is found by its identifier is lawful, also when it was
edited. -/
theorem lawful_of_get {id : String} {row : RuleRow}
    (found : session.get id = .ok row) (holds : Holds lawful session) :
    lawful row := by
  unfold get at found
  split at found
  case h_1 stored present =>
    cases found
    unfold seen
    cases edited : session.edits.find? (·.id = stored.id) with
    | none =>
        exact holds.current.rows stored (List.mem_of_find?_eq_some present)
    | some edit => exact holds.edits edit (List.mem_of_find?_eq_some edited)
  case h_2 => cases found

theorem holds_edit {row : RuleRow} (holds : Holds lawful session)
    (isLawful : lawful row) :
    Holds lawful (session.edit row) := by
  refine ⟨holds.committed, holds.current, ?_⟩
  intro other member
  rcases List.mem_cons.mp member with rfl | kept
  · exact isLawful
  · exact holds.edits other (List.mem_of_mem_filter kept)

end RuleSession

end LedgerRules
