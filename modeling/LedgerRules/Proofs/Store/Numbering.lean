import LedgerRules.Proofs.Store.Insertions
import LedgerRules.Proofs.Store.RuleCalls

/-!
# The identifiers of rules

Rules that are created without an identifier are given one that was never given
out.  As long as no rule brings its own, every identifier in the table was given
out, whatever is called in a session.
-/

namespace LedgerRules

namespace Store

section Numbered

variable {store after : Store}

theorem numbered_of_insertRules {news : List NewRule} {rows : List RuleRow}
    (success : store.insertRules news = .ok (rows, after))
    (numbered : Numbered store) (ids : ∀ new ∈ news, new.id = none) :
    Numbered after := by
  induction news generalizing store rows with
  | nil =>
      cases success
      exact numbered
  | cons new rest induction =>
      obtain ⟨⟨row, between⟩, inserting, success⟩ := bind_eq_ok_iff.mp success
      obtain ⟨⟨others, last⟩, insertingRest, success⟩ :=
        bind_eq_ok_iff.mp success
      cases success
      obtain ⟨first, later⟩ := List.forall_mem_cons.mp ids
      exact induction insertingRest
        (numbered_of_insertRule inserting numbered first) later

private theorem numbered_of_updateRule {row : RuleRow}
    (success : store.updateRule row = .ok after) (numbered : Numbered store) :
    Numbered after := by
  obtain ⟨_, _, success⟩ := bind_eq_ok_iff.mp success
  dsimp only at success
  split at success
  case isTrue => cases success
  case isFalse =>
    cases success
    intro other member
    obtain ⟨source, memberSource, rfl⟩ := List.mem_map.mp member
    by_cases written : source.id = row.id
    · rw [if_pos written, ← written]
      exact numbered source memberSource
    · rw [if_neg written]
      exact numbered source memberSource

theorem numbered_removeRule (id : String) (numbered : Numbered store) :
    Numbered (store.removeRule id) :=
  fun row member => numbered row (List.mem_of_mem_filter member)

end Numbered

end Store

namespace RuleSession

open Store (Numbered NewRule)

/-- The identifiers in the tables of a session were given out. -/
structure IsNumbered (session : RuleSession) : Prop where
  committed : Numbered session.committed
  current : Numbered session.current

/-- A call whose new rules do not bring identifiers of their own. -/
def Call.LeavesId (call : Call) : Prop :=
  ∀ new ∈ call.news, new.id = none

section Calls

variable {session : RuleSession}

theorem numbered_of_writeEdits {edits : List RuleRow} {store after : Store}
    (success : writeEdits edits store = .ok after) (numbered : Numbered store) :
    Numbered after := by
  induction edits generalizing store with
  | nil =>
      cases success
      exact numbered
  | cons row rest induction =>
      obtain ⟨between, writing, success⟩ := bind_eq_ok_iff.mp success
      exact induction success (Store.numbered_of_updateRule writing numbered)

private theorem numbered_of_removals {store : Store} (numbered : Numbered store)
    (deletions : List String) :
    Numbered (deletions.foldl (fun store id => store.removeRule id) store) := by
  induction deletions generalizing store with
  | nil => exact numbered
  | cons id rest induction =>
      exact induction (Store.numbered_removeRule id numbered)

theorem isNumbered_start {store : Store} (numbered : Numbered store) :
    IsNumbered (.start store) :=
  ⟨numbered, numbered⟩

theorem isNumbered_of_flush {news : List NewRule} {rows : List RuleRow}
    {after : RuleSession} (success : session.flush news = .ok (rows, after))
    (isNumbered : session.IsNumbered) (ids : ∀ new ∈ news, new.id = none) :
    after.IsNumbered := by
  obtain ⟨written, writing, success⟩ := bind_eq_ok_iff.mp success
  obtain ⟨⟨others, filled⟩, inserting, success⟩ := bind_eq_ok_iff.mp success
  cases success
  have edited := numbered_of_writeEdits writing isNumbered.current
  have inserted := Store.numbered_of_insertRules inserting edited ids
  exact ⟨isNumbered.committed, numbered_of_removals inserted session.deletions⟩

theorem isNumbered_perform (isNumbered : session.IsNumbered) {call : Call}
    (leaves : call.LeavesId) : (session.perform call).IsNumbered := by
  have performed := performed_perform session call
  generalize session.perform call = after at performed
  cases performed with
  | flushed success => exact isNumbered_of_flush success isNumbered leaves
  | edited => exact ⟨isNumbered.committed, isNumbered.current⟩
  | deleted => exact ⟨isNumbered.committed, isNumbered.current⟩
  | refused => exact isNumbered
  | committed success =>
      obtain ⟨⟨rows, flushed⟩, flushing, success⟩ := bind_eq_ok_iff.mp success
      cases success
      exact isNumbered_start
        (isNumbered_of_flush flushing isNumbered
          (List.forall_mem_nil _)).current
  | rolledBack => exact isNumbered_start isNumbered.committed

theorem isNumbered_performAll (isNumbered : session.IsNumbered)
    {calls : List Call} (leave : ∀ call ∈ calls, call.LeavesId) :
    (session.performAll calls).IsNumbered := by
  induction calls generalizing session with
  | nil => exact isNumbered
  | cons call rest induction =>
      obtain ⟨first, others⟩ := List.forall_mem_cons.mp leave
      exact induction (isNumbered_perform isNumbered first) others

end Calls

end RuleSession

end LedgerRules
