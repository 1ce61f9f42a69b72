import LedgerRules.Proofs.Store.Numbering
import LedgerRules.Proofs.Store.PlainRules

/-!
# Creating drafted rules together

Drafted rules are created all together or not at all.  They are turned down
exactly when one of them detects an account that a rule of the table or another
draft detects already, and then the session is as it was.  Otherwise each draft
becomes one row behind those of the table.
-/

namespace LedgerRules

/-- A rule that detects accounts sets an account, by what the column of text
keeps of the value. -/
def SetsAccount (ruleType : String) (actions : Json)
    (account : String) : Prop :=
  ruleType = RuleKind.accountDetection.text ∧
    ∃ value, actions.field? "set_account" = some value ∧
      RuleSession.columnText value = some account

def RuleRow.Sets (row : RuleRow) (account : String) : Prop :=
  SetsAccount row.ruleType row.actions account

/-- A draft that detects accounts sets an account. -/
def RuleDraft.Sets (draft : RuleDraft) (account : String) : Prop :=
  draft.ruleType = RuleKind.accountDetection.text ∧
    draft.actions.field? "set_account" = some (.str account)

theorem detectedAccount_eq_some_iff {ruleType account : String}
    {actions : Json} :
    RuleSession.detectedAccount ruleType actions = some account ↔
      SetsAccount ruleType actions account := by
  unfold RuleSession.detectedAccount RuleSession.setAccount? SetsAccount
  split
  case isFalse other => simp [other]
  case isTrue detects => simp [detects, Option.bind_eq_some_iff]

theorem RuleDraft.sets_iff {draft : RuleDraft} (text : SetsText draft.actions)
    {account : String} :
    draft.Sets account ↔ SetsAccount draft.ruleType draft.actions account := by
  refine and_congr_right fun _ => ?_
  constructor
  · intro given
    exact ⟨.str account, given, rfl⟩
  · rintro ⟨value, given, kept⟩
    obtain ⟨same, rfl⟩ := text value given
    cases kept
    exact given

/-- The keys of a rule that detects what it sets, and sets accounts only when it
detects them. -/
theorem keyed_iff {ruleType : String} {detected? : Option String}
    {sets : String → Prop}
    (detects : ∀ account, detected? = some account ↔ sets account)
    (detecting : ∀ account, sets account →
      ruleType = RuleKind.accountDetection.text)
    {key : String × String} :
    detected?.map (fun account => (ruleType, account)) = some key ↔
      key.1 = RuleKind.accountDetection.text ∧ sets key.2 := by
  obtain ⟨kind, account⟩ := key
  simp only [Option.map_eq_some_iff, detects, Prod.mk.injEq]
  constructor
  · rintro ⟨_, given, rfl, rfl⟩
    exact ⟨detecting _ given, given⟩
  · rintro ⟨rfl, given⟩
    exact ⟨account, given, detecting account given, rfl⟩

/-- A rule whose column has the account that its actions set. -/
def RuleRow.KeepsAccount (row : RuleRow) : Prop :=
  row.detectedAccount = RuleSession.detectedAccount row.ruleType row.actions

theorem RuleRow.KeepsAccount.key?_eq_some_iff {row : RuleRow}
    (keeps : row.KeepsAccount) {key : String × String} :
    row.key? = some key ↔ key.1 = RuleKind.accountDetection.text ∧
    row.Sets key.2 := by
  refine keyed_iff (fun account => ?_) fun _ sets => sets.1
  rw [keeps]
  exact detectedAccount_eq_some_iff

theorem key?_ofDraft_eq_some_iff {draft : RuleDraft}
    (text : SetsText draft.actions) {key : String × String} :
    (RuleSession.ofDraft draft).key? = some key ↔
      key.1 = RuleKind.accountDetection.text ∧ draft.Sets key.2 := by
  refine keyed_iff (fun account => ?_) fun _ sets => sets.1
  rw [RuleDraft.sets_iff text]
  exact detectedAccount_eq_some_iff

namespace Store

/-- New rules whose keys are apart from those of the rows and from each
other. -/
structure KeysApart (rows : List RuleRow) (news : List NewRule) : Prop where
  stored : ∀ new ∈ news, ∀ key ∈ new.key?, ∀ row ∈ rows, row.key? ≠ some key
  together : news.Pairwise fun left right => ∀ key ∈ left.key?,
    right.key? ≠ some key

theorem clash_eq_false_iff {left right : RuleRow} :
    clash left right = false ↔ ∀ key ∈ left.key?, right.key? ≠ some key := by
  rw [← Bool.not_eq_true, clash_eq_true_iff]
  simp

section Inserting

variable {store after : Store} {new : NewRule} {news : List NewRule}
  {rows : List RuleRow} {fault : StoreFault}

theorem eq_conflict_of_insertRule (fits : new.Fits)
    (failed : store.insertRule new = .error fault) : fault = .conflict := by
  obtain ⟨name, named⟩ := Option.isSome_iff_exists.mp fits.name
  have priority : storedInt new.priority = .ok new.priority := by
    rw [storedInt, if_pos fits.priority]
  simp only [insertRule, priority, fits.bound, named, required, bind,
    Except.bind] at failed
  split at failed
  · cases failed
    rfl
  · cases failed

private theorem eq_conflict_of_insertRules (fits : ∀ new ∈ news, new.Fits)
    (failed : store.insertRules news = .error fault) : fault = .conflict := by
  induction news generalizing store with
  | nil => cases failed
  | cons new rest induction =>
      obtain ⟨fitsNew, fitsRest⟩ := List.forall_mem_cons.mp fits
      rcases bind_eq_error_iff.mp failed
        with first | ⟨⟨row, between⟩, _, failed⟩
      · exact eq_conflict_of_insertRule fitsNew first
      · rcases bind_eq_error_iff.mp failed with later | ⟨_, _, answered⟩
        · exact induction fitsRest later
        · cases answered

private theorem keysApart_of_insertRules
    (compatible : store.rules.Pairwise Compatible)
    (success : store.insertRules news = .ok (rows, after)) :
    KeysApart store.rules news := by
  have inserted := insertedRules_of_insertRules success
  have tabled : Tabled (fun _ => True) after :=
    tabled_of_insertRules success ⟨fun _ _ => trivial, compatible⟩
      fun _ _ _ _ _ _ => trivial
  have clashFree := tabled.compatible
  rw [inserted.rules, List.pairwise_append] at clashFree
  obtain ⟨_, among, between⟩ := clashFree
  constructor
  · intro new memberNew key newKey row memberRow rowKey
    have memberKey : some key ∈ rows.map RuleRow.key? := by
      rw [inserted.keys]
      exact List.mem_map.mpr ⟨new, memberNew, newKey⟩
    obtain ⟨created, memberCreated, createdKey⟩ := List.mem_map.mp memberKey
    exact clash_eq_false_iff.mp
      (between row memberRow created memberCreated).apart key rowKey
      createdKey
  · have keys : (rows.map RuleRow.key?).Pairwise fun left right => ∀ key ∈ left,
        right ≠ some key := by
      rw [List.pairwise_map]
      exact among.imp fun compatible => clash_eq_false_iff.mp compatible.apart
    rwa [inserted.keys, List.pairwise_map] at keys

end Inserting

end Store

namespace RuleSession

open Store (Tabled Numbered NewRule KeysApart Fills)

/-- A store whose rules were last committed by calls from an empty table on,
which leave the choice of identifiers to the store. -/
def IsCalled (store : Store) : Prop :=
  ∃ (origin : Store) (calls : List Call), origin.rules = [] ∧
    (∀ call ∈ calls, call.LeavesId) ∧
    store.rules = ((start origin).performAll calls).committed.rules ∧
    store.ruleIds = ((start origin).performAll calls).committed.ruleIds

theorem steady_keepsAccount : Steady RuleRow.KeepsAccount where
  congr type actions account keeps := by
    unfold RuleRow.KeepsAccount
    rw [type, actions, account]
    exact keeps
  checked _ _ detected := detected

theorem yields_keepsAccount (new : NewRule) :
    (withDetectedAccount new).Yields RuleRow.KeepsAccount := by
  intro row ruleType actions detected
  unfold RuleRow.KeepsAccount
  rw [ruleType, actions, detected]
  rfl

theorem brings_keepsAccount (call : Call) :
    call.Brings RuleRow.KeepsAccount := by
  intro new member
  cases call with
  | create created =>
      rw [List.mem_singleton.mp member]
      exact yields_keepsAccount created
  | createAll drafts =>
      obtain ⟨draft, _, rfl⟩ := List.mem_map.mp member
      exact yields_keepsAccount _
  | _ => cases member

variable {store : Store}

theorem IsCalled.tabled (called : IsCalled store) :
    Tabled RuleRow.KeepsAccount store := by
  obtain ⟨origin, calls, empty, _, sameRules, _⟩ := called
  have holds := steady_keepsAccount.holds_performAll
    (holds_start (Store.tabled_of_empty empty)) fun call (_ : call ∈ calls) =>
      brings_keepsAccount call
  exact holds.committed.congr sameRules

theorem IsCalled.numbered (called : IsCalled store) : Numbered store := by
  obtain ⟨origin, calls, empty, leave, sameRules, sameIds⟩ := called
  have numberedOrigin : Numbered origin := by
    intro row member
    rw [empty] at member
    cases member
  have numbered := isNumbered_performAll (isNumbered_start numberedOrigin) leave
  intro row member
  rw [sameRules] at member
  rw [sameIds]
  exact numbered.committed row member

section Creating

variable {drafts : List RuleDraft}

/-- Some draft sets an account that a rule of the table sets, or two drafts set
the same one. -/
def Collide (rows : List RuleRow) (drafts : List RuleDraft) : Prop :=
  (∃ draft ∈ drafts, ∃ row ∈ rows, ∃ account, draft.Sets account ∧
    row.Sets account) ∨
    ¬ drafts.Pairwise fun left right => ∀ account, left.Sets account →
      ¬ right.Sets account

/-- A row with the fields of a draft and the account that the draft sets. -/
structure Writes (draft : RuleDraft) (row : RuleRow) : Prop where
  name : row.name = draft.name
  isActive : row.isActive = draft.isActive
  priority : row.priority = draft.priority
  ruleType : row.ruleType = draft.ruleType
  logic : row.logic = draft.logic
  conditions : row.conditions = draft.conditions
  actions : row.actions = draft.actions
  promptText : row.promptText = none
  matchPhone : row.matchPhone = none
  transferTo : row.transferTo = none
  detectedAccount : ∀ account, row.detectedAccount = some account ↔
    draft.Sets account

private theorem keysApart_ofDraft_iff {rows : List RuleRow}
    (keep : ∀ row ∈ rows, row.KeepsAccount)
    (texts : ∀ draft ∈ drafts, SetsText draft.actions) :
    KeysApart rows (drafts.map ofDraft) ↔ ¬ Collide rows drafts := by
  have rowKey : ∀ row ∈ rows, ∀ account,
      row.key? = some (RuleKind.accountDetection.text, account) ↔
        row.Sets account := by
    intro row member account
    rw [(keep row member).key?_eq_some_iff]
    exact and_iff_right rfl
  have draftKey : ∀ draft ∈ drafts, ∀ account,
      (ofDraft draft).key? = some (RuleKind.accountDetection.text, account) ↔
        draft.Sets account := by
    intro draft member account
    rw [key?_ofDraft_eq_some_iff (texts draft member)]
    exact and_iff_right rfl
  rw [Collide, not_or, not_not]
  constructor
  · rintro ⟨stored, together⟩
    constructor
    · rintro ⟨draft, member, row, rowMember, account, sets, rowSets⟩
      exact stored (ofDraft draft) (List.mem_map_of_mem member) _
        ((draftKey draft member account).mpr sets) row rowMember
        ((rowKey row rowMember account).mpr rowSets)
    · rw [List.pairwise_map] at together
      refine together.imp_of_mem ?_
      intro left right leftMember rightMember apart account leftSets rightSets
      exact apart _ ((draftKey left leftMember account).mpr leftSets)
        ((draftKey right rightMember account).mpr rightSets)
  · rintro ⟨stored, together⟩
    constructor
    · intro new member key newKey row rowMember sameKey
      obtain ⟨draft, draftMember, rfl⟩ := List.mem_map.mp member
      obtain ⟨_, sets⟩ :=
        (key?_ofDraft_eq_some_iff (texts draft draftMember)).mp newKey
      obtain ⟨_, rowSets⟩ := (keep row rowMember).key?_eq_some_iff.mp sameKey
      exact stored ⟨draft, draftMember, row, rowMember, key.2, sets, rowSets⟩
    · rw [List.pairwise_map]
      refine together.imp_of_mem ?_
      intro left right leftMember rightMember apart key leftKey rightKey
      obtain ⟨_, leftSets⟩ :=
        (key?_ofDraft_eq_some_iff (texts left leftMember)).mp leftKey
      obtain ⟨_, rightSets⟩ :=
        (key?_ofDraft_eq_some_iff (texts right rightMember)).mp rightKey
      exact apart key.2 leftSets rightSets

private theorem createAll_start (drafts : List RuleDraft) (store : Store) :
    (start store).createAll drafts =
      (store.insertRules (drafts.map ofDraft)).map fun inserted =>
        (inserted.1, { committed := store, current := inserted.2 }) := by
  change (start store).flush (drafts.map ofDraft) = _
  cases inserting : store.insertRules (drafts.map ofDraft) with
  | error fault =>
      simp [flush, start, writeEdits, inserting, bind, Except.bind, Except.map]
  | ok result =>
      simp [flush, start, writeEdits, inserting, bind, Except.bind, pure,
        Except.pure, Except.map]

theorem commit_of_nothingPending {session : RuleSession}
    (noEdits : session.edits = []) (noDeletions : session.deletions = []) :
    session.commit = .ok (start session.current) := by
  simp [commit, flush, noEdits, noDeletions, writeEdits, Store.insertRules,
    bind, Except.bind, pure, Except.pure]

theorem writes_of_fills {draft : RuleDraft} {row : RuleRow}
    (text : SetsText draft.actions) (fills : Fills (ofDraft draft) row) :
    Writes draft row where
  name := (Option.some.inj fills.name).symm
  isActive := fills.isActive
  priority := fills.priority
  ruleType := fills.ruleType
  logic := fills.logic
  conditions := fills.conditions
  actions := fills.actions
  promptText := fills.promptText
  matchPhone := fills.matchPhone
  transferTo := fills.transferTo
  detectedAccount account := by
    rw [fills.detectedAccount, RuleDraft.sets_iff text]
    exact detectedAccount_eq_some_iff

/-- Drafts are created together in a new session on rules that were committed by
calls.  They are turned down for a conflict exactly when they collide, and then
the session is as it was; otherwise every draft becomes a row of its own behind
those of the table, in their order, and committing makes them last. -/
theorem createAll_conflicts_iff_collide {store : Store}
    (called : IsCalled store) {drafts : List RuleDraft}
    (texts : ∀ draft ∈ drafts, SetsText draft.actions)
    (fit : ∀ draft ∈ drafts, Date.fitsInteger draft.priority = true) :
    ((start store).createAll drafts = .error .conflict ↔
      Collide store.rules drafts) ∧
      (Collide store.rules drafts → (start store).perform (.createAll drafts) =
        start store) ∧
      (¬ Collide store.rules drafts →
        ∃ rows after, (start store).createAll drafts = .ok (rows, after) ∧
          after.current.rules = store.rules ++ rows ∧
          List.Forall₂ Writes drafts rows ∧
          (after.current.rules.map RuleRow.id).Nodup ∧
          after.commit = .ok (start after.current)) := by
  have tabled := called.tabled
  have fits : ∀ new ∈ drafts.map ofDraft, new.Fits := by
    intro new member
    obtain ⟨draft, draftMember, rfl⟩ := List.mem_map.mp member
    exact ⟨rfl, bound_withDetectedAccount (texts draft draftMember), rfl,
      fit draft draftMember⟩
  have apart_iff := keysApart_ofDraft_iff tabled.rows texts
  have outcome := createAll_start drafts store
  by_cases collide : Collide store.rules drafts
  case pos =>
    obtain ⟨fault, failed⟩ : ∃ fault, store.insertRules (drafts.map ofDraft) =
      .error fault := by
      cases inserting : store.insertRules (drafts.map ofDraft) with
      | error fault => exact ⟨fault, rfl⟩
      | ok result =>
          have apart := Store.keysApart_of_insertRules tabled.compatible
            inserting
          exact (apart_iff.mp apart collide).elim
    rw [failed, Store.eq_conflict_of_insertRules fits failed] at outcome
    refine ⟨iff_of_true outcome collide, fun _ => ?_, fun free =>
      (free collide).elim⟩
    rw [perform, outcome]
    rfl
  case neg =>
    obtain ⟨stored, together⟩ := apart_iff.mpr collide
    obtain ⟨rows, after, inserting⟩ :=
      Store.insertRules_eq_ok called.numbered fits stored together
    have inserted := Store.insertedRules_of_insertRules inserting
    have filled : Tabled (fun _ => True) after :=
      Store.tabled_of_insertRules inserting
        ⟨fun _ _ => trivial, tabled.compatible⟩
        fun _ _ _ _ _ _ => trivial
    rw [inserting] at outcome
    refine ⟨iff_of_false ?_ collide, fun impossible =>
      (collide impossible).elim, fun _ => ?_⟩
    · rw [outcome]
      intro failed
      cases failed
    · have fills := List.forall₂_map_left_iff.mp inserted.filled
      have writes := (List.forall₂_and_left drafts rows).mpr ⟨texts, fills⟩
      refine ⟨rows, _, outcome, inserted.rules, ?_, nodup_id_of_tabled filled,
        commit_of_nothingPending rfl rfl⟩
      exact writes.imp fun _ _ both => writes_of_fills both.1 both.2

end Creating

def drafting (ruleType account : String) : RuleDraft where
  name := "Account: " ++ account
  conditions := .obj []
  actions := .obj [("set_account", .str account)]
  ruleType := ruleType

/-- A rule that detects a wallet and one that only books on the savings,
committed. -/
def walletRules : Store :=
  ((start freshStore).performAll
    [.create (detecting "Wallet" "wallet"),
      .create {
        name := some "Rent"
        actions := .obj [("set_account", .str "savings")] },
      .commit]).committed

/-- The last draft is for the wallet, that a rule detects already. -/
def lateDrafts : List RuleDraft :=
  [drafting RuleKind.accountDetection.text "savings",
    drafting RuleKind.accountDetection.text "wallet"]

/-- The savings are detected by one draft only. -/
def freeDrafts : List RuleDraft :=
  [drafting RuleKind.accountDetection.text "savings",
    drafting RuleKind.general.text "savings", drafting RuleKind.general.text
      "wallet"]

theorem createAll_conflicts_iff_collide_wallets :
    IsCalled walletRules ∧
      (∀ draft ∈ lateDrafts ++ freeDrafts,
        SetsText draft.actions ∧ Date.fitsInteger draft.priority = true) ∧
      Collide walletRules.rules lateDrafts ∧
      (start walletRules).perform (.createAll lateDrafts) = start walletRules ∧
      ¬ Collide walletRules.rules freeDrafts ∧
      ∃ rows after,
        (start walletRules).createAll freeDrafts = .ok (rows, after) ∧
        after.current.rules = walletRules.rules ++ rows ∧
        List.Forall₂ Writes freeDrafts rows := by
  have called : IsCalled walletRules := by
    refine ⟨_, _, rfl, ?_, rfl, rfl⟩
    simp [Call.LeavesId, Call.news, withDetectedAccount, detecting]
  have texts : ∀ draft ∈ lateDrafts ++ freeDrafts,
      SetsText draft.actions ∧ Date.fitsInteger draft.priority = true := by
      decide
  obtain ⟨lateTexts, freeTexts⟩ := List.forall_mem_append.mp texts
  have late := createAll_conflicts_iff_collide called
    (fun draft member => (lateTexts draft member).1) fun draft member =>
      (lateTexts draft member).2
  have free := createAll_conflicts_iff_collide called
    (fun draft member => (freeTexts draft member).1) fun draft member =>
      (freeTexts draft member).2
  have collide := late.1.mp (eq_error_of_fault? (by decide +kernel))
  have apart : ¬ Collide walletRules.rules freeDrafts := by
    intro impossible
    have failed := congrArg fault? (free.1.mpr impossible)
    exact absurd failed (by decide +kernel)
  obtain ⟨rows, after, created, appended, writes, _⟩ := free.2.2 apart
  exact ⟨called, texts, collide, late.2.1 collide, apart, rows, after, created,
    appended, writes⟩

end RuleSession

end LedgerRules
