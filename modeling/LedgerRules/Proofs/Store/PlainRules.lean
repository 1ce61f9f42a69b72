import LedgerRules.Proofs.Store.Insertions
import LedgerRules.Proofs.Store.RuleCalls

/-!
# A plain table of rules

A session is compared with a plain table, on which every call takes effect at
once.  What the plain table holds is what is seen of the rules that are not to
be deleted, and so flushing writes the plain table.
-/

namespace LedgerRules

namespace RuleSession

open Store (Tabled Compatible NewRule)

/-- What changes make of a rule. -/
def Changes.revise (changes : Changes) (row : RuleRow) :
    Except StoreFault RuleRow := do
  let conditions? ← changes.conditions.mapM fun payload =>
    tidied row .conditions Payload.Conditions.dump
      (Payload.Conditions.check .storage payload)
  let actions? ← changes.actions.mapM fun payload =>
    tidied row .actions Payload.Actions.dump
      (Payload.Actions.check .storage payload)
  return { row with
    name := changes.name.getD row.name
    conditions := conditions?.getD row.conditions
    actions := actions?.getD row.actions
    detectedAccount := match actions? with
      | some actions => detectedAccount row.ruleType actions
      | none => row.detectedAccount
    priority := changes.priority.getD row.priority
    logic := changes.logic.getD row.logic }

/-- Switches a rule on or off. -/
def switched (active : Bool) (row : RuleRow) : Except StoreFault RuleRow :=
  .ok { row with isActive := active }

/-- Revises the rules with an identifier; a rule that cannot be revised stays as
it is. -/
def revised (id : String) (revise : RuleRow → Except StoreFault RuleRow)
    (rows : List RuleRow) :
    List RuleRow :=
  rows.map fun row => if row.id = id then (revise row).toOption.getD row
    else row

/-- The rules after a flush that brings new ones, of which only the committed
ones are left when it fails. -/
def broughtInto (session : RuleSession) (rows : List RuleRow) :
    Except StoreFault (List RuleRow × RuleSession) → List RuleRow
  | .ok (created, _) => rows ++ created
  | .error _ => session.committed.rules

/-- The rules of the plain table after a call. -/
def Call.plainly (session : RuleSession) (rows : List RuleRow) :
    Call → List RuleRow
  | .create new => session.broughtInto rows (session.create new)
  | .createAll drafts => session.broughtInto rows (session.createAll drafts)
  | .update id changes => revised id changes.revise rows
  | .activate active id => revised id (switched active) rows
  | .delete id => rows.filter fun row => row.id ≠ id
  | .flush => session.broughtInto rows (session.flush [])
  | .commit => session.broughtInto rows (session.flush [])
  | .rollback => session.committed.rules

/-- The rules of the plain table after several calls. -/
def plainlyAll : RuleSession → List RuleRow → List Call → List RuleRow
  | _, rows, [] => rows
  | session, rows, call :: rest =>
      plainlyAll (session.perform call) (call.plainly session rows) rest

theorem update_eq (id : String) (changes : Changes) (session : RuleSession) :
    session.update id changes = do
      let row ← session.get id
      let revised ← changes.revise row
      return session.edit revised := by
  simp only [update, Changes.revise, bind_assoc]
  rfl

theorem id_of_revise {changes : Changes} {row revised : RuleRow}
    (success : changes.revise row = .ok revised) : revised.id = row.id := by
  obtain ⟨_, _, success⟩ := bind_eq_ok_iff.mp success
  obtain ⟨_, _, success⟩ := bind_eq_ok_iff.mp success
  cases success
  rfl

section Rows

variable {rows edits : List RuleRow}

theorem id_seen (session : RuleSession) (row : RuleRow) :
    (session.seen row).id = row.id := by
  unfold seen
  cases edited : session.edits.find? (·.id = row.id) with
  | none => rfl
  | some edit => simpa using List.find?_some edited

theorem seen_edit (session : RuleSession) (edit row : RuleRow) :
    (session.edit edit).seen row = if edit.id = row.id then edit
      else session.seen row := by
  unfold seen RuleSession.edit
  by_cases same : edit.id = row.id
  case pos => rw [if_pos same, List.find?_cons_of_pos (by simpa using same),
    Option.getD_some]
  case neg =>
    rw [if_neg same, List.find?_cons_of_neg (by simpa using same),
      List.find?_filter]
    congr 2
    funext other
    by_cases found : other.id = row.id
    · simp [found, Ne.symm same]
    · simp [found]

/-- A rule is found as it was edited. -/
theorem get_edit {session : RuleSession} {id : String} {row edit : RuleRow}
    (found : session.get id = .ok row) (sameId : edit.id = row.id) :
    (session.edit edit).get id = .ok edit := by
  unfold get at found ⊢
  split at found
  case h_1 stored present =>
    cases found
    have stillPresent : (session.edit edit).current.rules.find? (·.id = id) =
        some stored :=
      present
    rw [stillPresent]
    dsimp only
    rw [seen_edit, if_pos (sameId.trans (id_seen session stored))]
  case h_2 => cases found

/-- An edit leaves the rules with other identifiers. -/
theorem get_edit_of_ne {session : RuleSession} {id : String} {edit : RuleRow}
    (other : edit.id ≠ id) : (session.edit edit).get id = session.get id := by
  have sameTable : (session.edit edit).current = session.current := rfl
  unfold get
  rw [sameTable]
  split
  case h_1 stored present =>
    have storedId : stored.id = id := by simpa using List.find?_some present
    rw [seen_edit, if_neg (storedId ▸ other)]
  case h_2 => rfl

end Rows

section Flushing

variable {store after : Store} {edits : List RuleRow}

private theorem rules_of_updateRule {row : RuleRow}
    (success : store.updateRule row = .ok after) :
    after.rules = store.rules.map fun other => if other.id = row.id then row
      else other := by
  obtain ⟨_, _, success⟩ := bind_eq_ok_iff.mp success
  dsimp only at success
  split at success
  · cases success
  · cases success
    rfl

theorem rules_of_writeEdits (success : writeEdits edits store = .ok after)
    (distinct : (edits.map RuleRow.id).Nodup) :
    after.rules = store.rules.map fun row => (edits.find? (·.id = row.id)).getD
      row := by
  induction edits generalizing store with
  | nil =>
      cases success
      exact (List.map_id _).symm
  | cons edit rest induction =>
      obtain ⟨between, writing, success⟩ := bind_eq_ok_iff.mp success
      obtain ⟨apart, distinctRest⟩ := List.nodup_cons.mp distinct
      rw [induction success distinctRest, rules_of_updateRule writing,
        List.map_map]
      apply List.map_congr_left
      intro row member
      by_cases same : row.id = edit.id
      case pos =>
        have notLater : rest.find? (·.id = edit.id) = none := by
          apply List.find?_eq_none.mpr
          intro other memberOther sameOther
          exact apart (List.mem_map.mpr
            ⟨other, memberOther, by simpa using sameOther⟩)
        rw [List.find?_cons_of_pos (by simp [same])]
        simp [same, notLater]
      case neg =>
        rw [List.find?_cons_of_neg (by simpa using Ne.symm same)]
        simp [same]

private theorem rules_of_removals (store : Store) (deletions : List String) :
    (deletions.foldl (fun store id => store.removeRule id) store).rules =
      store.rules.filter fun row => !deletions.contains row.id := by
  induction deletions generalizing store with
  | nil => simp
  | cons id rest induction =>
      rw [List.foldl_cons, induction, Store.removeRule, List.filter_filter]
      apply List.filter_congr
      intro row member
      by_cases same : row.id = id
      · simp [same]
      · simp [same]

end Flushing

/-- The rules that are not to be deleted, as they are seen. -/
def remaining (session : RuleSession) : List RuleRow :=
  (session.current.rules.filter fun row =>
    !session.deletions.contains row.id).map session.seen

/-- A session is in order: its tables are, edits are of distinct rules, and only
rules of the table are to be deleted. -/
structure Orderly (session : RuleSession) : Prop where
  holds : Holds (fun _ => True) session
  edits : (session.edits.map RuleRow.id).Nodup
  deletions : ∀ id ∈ session.deletions,
    id ∈ session.current.rules.map RuleRow.id

theorem nodup_id_of_tabled {lawful : RuleRow → Prop} {store : Store}
    (tabled : Tabled lawful store) : (store.rules.map RuleRow.id).Nodup := by
  rw [List.Nodup, List.pairwise_map]
  exact tabled.compatible.imp fun compatible => compatible.ids

theorem orderly_start {store : Store} (tabled : Tabled (fun _ => True) store) :
    Orderly (.start store) :=
  ⟨holds_start tabled, .nil, nofun⟩

theorem remaining_of_nothingPending {session : RuleSession}
    (noEdits : session.edits = []) (noDeletions : session.deletions = []) :
    session.remaining = session.current.rules := by
  have seen : session.seen = id := by
    funext row
    rw [RuleSession.seen, noEdits]
    rfl
  rw [remaining, seen, noDeletions, List.map_id]
  exact List.filter_eq_self.mpr fun _ _ => rfl

section Calls

variable {session after : RuleSession}

/-- The edits that a flush writes. -/
def pending (session : RuleSession) : List RuleRow :=
  (session.edits.filter fun row => !session.deletions.contains row.id).mergeSort
    fun left right => decide (left.id ≤ right.id)

theorem mem_pending_iff {row : RuleRow} :
    row ∈ session.pending ↔
      row ∈ session.edits ∧ row.id ∉ session.deletions := by
  rw [pending, List.mem_mergeSort, List.mem_filter]
  simp

theorem nodup_id_pending (orderly : Orderly session) :
    (session.pending.map RuleRow.id).Nodup := by
  rw [pending, ((List.mergeSort_perm _ _).map RuleRow.id).nodup_iff]
  exact (List.filter_sublist.map RuleRow.id).nodup orderly.edits

private theorem find?_pending (orderly : Orderly session) {row : RuleRow}
    (kept : row.id ∉ session.deletions) :
    (session.pending.find? (·.id = row.id)).getD row = session.seen row := by
  unfold seen
  congr 1
  apply Option.ext
  intro edit
  rw [find?_key_eq_some_iff (nodup_id_pending orderly),
    find?_key_eq_some_iff orderly.edits, mem_pending_iff, and_assoc]
  constructor
  · rintro ⟨member, _, same⟩
    exact ⟨member, same⟩
  · rintro ⟨member, same⟩
    exact ⟨member, same ▸ kept, same⟩

/-- A flush writes the rules that remain, with the new ones behind them. -/
theorem rules_of_flush {news : List NewRule} {created : List RuleRow}
    (success : session.flush news = .ok (created, after))
    (orderly : Orderly session) :
    after.current.rules = session.remaining ++ created ∧
      List.Forall₂ Store.Fills news created := by
  obtain ⟨written, writing, success⟩ := bind_eq_ok_iff.mp success
  obtain ⟨⟨rows, filled⟩, inserting, success⟩ := bind_eq_ok_iff.mp success
  cases success
  have writtenRules : written.rules = session.current.rules.map fun row =>
      (session.pending.find? (·.id = row.id)).getD row :=
    rules_of_writeEdits writing (nodup_id_pending orderly)
  have sameId : ∀ row : RuleRow,
      ((session.pending.find? (·.id = row.id)).getD row).id = row.id := by
    intro row
    cases found : session.pending.find? (·.id = row.id) with
    | none => rfl
    | some edit => simpa using List.find?_some found
  have inserted := Store.insertedRules_of_insertRules inserting
  -- The new rules are none of those to be deleted, as identifiers stay
  -- distinct.
  have tabled := Store.tabled_of_insertRules inserting
    (tabled_of_writeEdits writing orderly.holds.current fun _ _ => trivial)
    fun _ _ _ _ _ _ => trivial
  have ids := nodup_id_of_tabled tabled
  rw [inserted.rules, writtenRules, List.map_append, List.map_map,
    List.nodup_append] at ids
  rw [rules_of_removals, inserted.rules, writtenRules, List.filter_append]
  refine ⟨congrArg₂ _ ?_ ?_, inserted.filled⟩
  · rw [List.filter_map, remaining]
    simp only [Function.comp_def, sameId]
    apply List.map_congr_left
    intro row member
    exact find?_pending orderly (by simpa using (List.mem_filter.mp member).2)
  · apply List.filter_eq_self.mpr
    intro row member
    rw [Bool.not_eq_true', List.contains_eq_mem, decide_eq_false_iff_not]
    intro deleted
    obtain ⟨other, memberOther, same⟩ :=
      List.mem_map.mp (orderly.deletions row.id deleted)
    exact ids.2.2 other.id (List.mem_map.mpr ⟨other, memberOther, sameId other⟩)
      row.id
      (List.mem_map_of_mem member) same

theorem nothingPending_of_flush {news : List NewRule} {created : List RuleRow}
    (success : session.flush news = .ok (created, after)) :
    after.edits = [] ∧ after.deletions = [] := by
  obtain ⟨_, _, success⟩ := bind_eq_ok_iff.mp success
  obtain ⟨_, _, success⟩ := bind_eq_ok_iff.mp success
  cases success
  exact ⟨rfl, rfl⟩

theorem orderly_of_flush {news : List NewRule} {created : List RuleRow}
    (success : session.flush news = .ok (created, after))
    (orderly : Orderly session) :
    Orderly after := by
  obtain ⟨noEdits, noDeletions⟩ := nothingPending_of_flush success
  refine ⟨holds_of_flush success orderly.holds fun _ _ _ _ _ _ => trivial, ?_,
    ?_⟩
  · rw [noEdits]
    exact .nil
  · rw [noDeletions]
    exact nofun

theorem remaining_of_flush {news : List NewRule} {created : List RuleRow}
    (success : session.flush news = .ok (created, after))
    (orderly : Orderly session) :
    after.remaining = session.remaining ++ created := by
  obtain ⟨noEdits, noDeletions⟩ := nothingPending_of_flush success
  rw [remaining_of_nothingPending noEdits noDeletions]
  exact (rules_of_flush success orderly).1

/-- A session follows a plain table when it is in order and its remaining rules
are those of the table. -/
structure Follows (session : RuleSession) (rows : List RuleRow) : Prop where
  orderly : Orderly session
  rows : session.remaining = rows

theorem follows_start {store : Store} (tabled : Tabled (fun _ => True) store) :
    Follows (.start store) store.rules :=
  ⟨orderly_start tabled, remaining_of_nothingPending rfl rfl⟩

theorem Orderly.follows_rollback (orderly : Orderly session) :
    Follows session.rollback session.committed.rules :=
  follows_start orderly.holds.committed

theorem Orderly.follows_flushedOr (orderly : Orderly session)
    (news : List NewRule) :
    Follows (session.flushedOr (session.flush news))
      (session.broughtInto session.remaining (session.flush news)) := by
  cases outcome : session.flush news with
  | error fault => exact orderly.follows_rollback
  | ok result =>
      obtain ⟨created, after⟩ := result
      exact ⟨orderly_of_flush outcome orderly,
        remaining_of_flush outcome orderly⟩

theorem perform_commit (session : RuleSession) :
    session.perform .commit =
      match session.flush [] with
      | .ok (_, after) => .start after.current
      | .error _ => session.rollback := by
  unfold perform commit
  cases session.flush [] <;> rfl

theorem Orderly.follows_commit (orderly : Orderly session) :
    Follows (session.perform .commit)
      (session.broughtInto session.remaining (session.flush [])) := by
  rw [perform_commit]
  cases outcome : session.flush [] with
  | error fault => exact orderly.follows_rollback
  | ok result =>
      obtain ⟨created, after⟩ := result
      have written := (rules_of_flush outcome orderly).1
      rw [broughtInto, ← written]
      exact follows_start (orderly_of_flush outcome orderly).holds.current

theorem get_eq_ok_iff (orderly : Orderly session) {id : String}
    {row : RuleRow} :
    session.get id = .ok row ↔
      ∃ stored ∈ session.current.rules, stored.id = id ∧
        session.seen stored = row := by
  have found_iff : ∀ stored, session.current.rules.find? (·.id = id) =
      some stored ↔
      stored ∈ session.current.rules ∧ stored.id = id :=
    fun _ => find?_key_eq_some_iff (nodup_id_of_tabled orderly.holds.current)
  unfold get
  cases found : session.current.rules.find? (·.id = id) with
  | none =>
      constructor
      · nofun
      · rintro ⟨stored, member, same, _⟩
        rw [(found_iff stored).mpr ⟨member, same⟩] at found
        cases found
  | some stored =>
      obtain ⟨member, same⟩ := (found_iff stored).mp found
      constructor
      · rintro ⟨⟩
        exact ⟨stored, member, same, rfl⟩
      · rintro ⟨other, memberOther, sameOther, rfl⟩
        rw [(found_iff other).mpr ⟨memberOther, sameOther⟩] at found
        cases found
        rfl

theorem get_of_mem_remaining (orderly : Orderly session) {row : RuleRow}
    (member : row ∈ session.remaining) : session.get row.id = .ok row := by
  obtain ⟨stored, memberStored, rfl⟩ := List.mem_map.mp member
  exact (get_eq_ok_iff orderly).mpr
    ⟨stored, List.mem_of_mem_filter memberStored, (id_seen session stored).symm,
      rfl⟩

theorem id_of_get (orderly : Orderly session) {id : String} {row : RuleRow}
    (found : session.get id = .ok row) : row.id = id := by
  obtain ⟨stored, _, same, rfl⟩ := (get_eq_ok_iff orderly).mp found
  rw [id_seen, same]

theorem revised_eq_self {rows : List RuleRow} {id : String}
    {revise : RuleRow → Except StoreFault RuleRow}
    (failing : ∀ row ∈ rows, row.id = id → ∀ result, revise row ≠ .ok result) :
    revised id revise rows = rows := by
  refine (List.map_congr_left ?_).trans (List.map_id rows)
  intro row member
  split
  case isTrue same =>
    cases outcome : revise row with
    | ok result => exact (failing row member same result outcome).elim
    | error fault => rfl
  case isFalse => rfl

theorem orderly_edit (orderly : Orderly session) (edit : RuleRow) :
    Orderly (session.edit edit) := by
  refine ⟨holds_edit orderly.holds trivial, ?_, orderly.deletions⟩
  refine List.nodup_cons.mpr
    ⟨?_, (List.filter_sublist.map _).nodup orderly.edits⟩
  intro member
  obtain ⟨other, kept, same⟩ := List.mem_map.mp member
  simp [same] at kept

theorem remaining_edit (orderly : Orderly session) {id : String}
    {revise : RuleRow → Except StoreFault RuleRow} {row result : RuleRow}
    (found : session.get id = .ok row) (revising : revise row = .ok result)
    (resultId : result.id = id) :
    (session.edit result).remaining = revised id revise session.remaining := by
  obtain ⟨stored, memberStored, storedId, seen⟩ :=
    (get_eq_ok_iff orderly).mp found
  rw [remaining, revised, remaining, List.map_map]
  apply List.map_congr_left
  intro other member
  rw [seen_edit, Function.comp_apply, id_seen, resultId]
  by_cases same : other.id = id
  case pos =>
    have isStored : other = stored :=
      List.inj_on_of_nodup_map (nodup_id_of_tabled orderly.holds.current)
        (List.mem_of_mem_filter member) memberStored (same.trans storedId.symm)
    rw [if_pos same.symm, if_pos same, isStored, seen, revising]
    rfl
  case neg => rw [if_neg (Ne.symm same), if_neg same]

theorem Orderly.follows_revising (orderly : Orderly session) (id : String)
    {revise : RuleRow → Except StoreFault RuleRow}
    (keepsId : ∀ {row result}, revise row = .ok result → result.id = row.id) :
    Follows (session.changedOr do
        let row ← session.get id
        let result ← revise row
        return session.edit result)
      (revised id revise session.remaining) := by
  cases found : session.get id with
  | error fault =>
      refine ⟨orderly, (revised_eq_self ?_).symm⟩
      rintro row member rfl
      rw [get_of_mem_remaining orderly member] at found
      cases found
  | ok row =>
      cases outcome : revise row with
      | error fault =>
          simp only [outcome, bind, Except.bind]
          refine ⟨orderly, (revised_eq_self ?_).symm⟩
          rintro other member rfl result revising
          rw [get_of_mem_remaining orderly member] at found
          cases found
          rw [outcome] at revising
          cases revising
      | ok result =>
          simp only [outcome, bind, Except.bind]
          exact ⟨orderly_edit orderly result,
            remaining_edit orderly found outcome
            ((keepsId outcome).trans (id_of_get orderly found))⟩

private theorem perform_delete (session : RuleSession) (id : String) :
    session.perform (.delete id) =
      match session.get id with
      | .ok row => { session with deletions := row.id :: session.deletions }
      | .error _ => session := by
  change session.changedOr (session.delete id) = _
  unfold delete
  cases session.get id <;> rfl

theorem Orderly.follows_delete (orderly : Orderly session) (id : String) :
    Follows (session.perform (.delete id))
      (session.remaining.filter fun row => row.id ≠ id) := by
  rw [perform_delete]
  cases found : session.get id with
  | error fault =>
      refine ⟨orderly, (List.filter_eq_self.mpr ?_).symm⟩
      intro row member
      rw [decide_eq_true_iff]
      rintro rfl
      rw [get_of_mem_remaining orderly member] at found
      cases found
  | ok row =>
      obtain ⟨stored, memberStored, storedId, _⟩ :=
        (get_eq_ok_iff orderly).mp found
      have rowId := id_of_get orderly found
      change Follows { session with deletions := row.id :: session.deletions } _
      refine ⟨⟨⟨orderly.holds.committed, orderly.holds.current,
        orderly.holds.edits⟩, orderly.edits, ?_⟩, ?_⟩
      · refine List.forall_mem_cons.mpr ⟨?_, orderly.deletions⟩
        exact List.mem_map.mpr ⟨stored, memberStored, storedId.trans rowId.symm⟩
      · rw [remaining, remaining, List.filter_map, List.filter_filter]
        congr 1
        apply List.filter_congr
        intro other member
        rw [Function.comp_apply, id_seen, rowId, List.contains_cons,
          Bool.not_or]
        congr 1
        by_cases same : other.id = id
        · simp [same]
        · simp [same]

theorem Follows.perform {rows : List RuleRow} (follows : Follows session rows)
    (call : Call) :
    Follows (session.perform call) (call.plainly session rows) := by
  obtain ⟨orderly, rfl⟩ := follows
  cases call with
  | create new => exact orderly.follows_flushedOr _
  | createAll drafts => exact orderly.follows_flushedOr _
  | update id changes =>
      rw [RuleSession.perform, update_eq]
      exact orderly.follows_revising id id_of_revise
  | activate active id =>
      have keepsId : ∀ {row result}, switched active row = .ok result →
          result.id = row.id := by
        rintro row result ⟨⟩
        rfl
      exact orderly.follows_revising id keepsId
  | delete id => exact orderly.follows_delete id
  | flush => exact orderly.follows_flushedOr _
  | commit => exact orderly.follows_commit
  | rollback => exact orderly.follows_rollback

theorem Follows.performAll {rows : List RuleRow}
    (follows : Follows session rows) (calls : List Call) :
    Follows (session.performAll calls) (plainlyAll session rows calls) := by
  induction calls generalizing session rows with
  | nil => exact follows
  | cons call rest induction => exact induction (follows.perform call)

end Calls

/-- A store without rules, on which calls are tried. -/
def freshStore : Store := .empty ⟨2024, 5, 1⟩

end RuleSession

end LedgerRules
