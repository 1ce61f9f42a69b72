import LedgerRules.Command
import LedgerRules.Proofs.Service.Failing
import LedgerRules.Proofs.Store.Numbering

/-!
# Drafting rules for all accounts

From every store whose rules were written by calls, drafted rules can be stored
unless their priority does not fit.  Then every account in use that can be told
by its words has exactly one rule that detects it, drafting again changes
nothing, and a dry run tells the number of rules beforehand.
-/

namespace LedgerRules

open Store (Tabled Numbered NewRule Fills)

/-- A rule that keeps the account that its actions set, and whose actions are an
object. -/
structure RuleRow.Plain (row : RuleRow) : Prop where
  mirrors : row.Mirrors
  actions : ∃ fields, row.actions = .obj fields

namespace RuleSession

theorem steady_plain : Steady RuleRow.Plain where
  congr type actions account plain := by
    refine ⟨steady_mirrors.congr type actions account plain.mirrors, ?_⟩
    rw [actions]
    exact plain.actions
  checked payload actions detected :=
    ⟨steady_mirrors.checked payload actions detected, _, actions⟩

theorem yields_plain {new : NewRule} (sets : SetsText new.actions)
    (object : ∃ fields, new.actions = .obj fields) :
    (withDetectedAccount new).Yields RuleRow.Plain := by
  intro row ruleType actions detected
  refine ⟨yields_withDetectedAccount sets row ruleType actions detected, ?_⟩
  have sameActions : row.actions = new.actions := actions
  rw [sameActions]
  exact object

/-- The actions that a call brings into the table are objects which set accounts
by their text, and it brings no identifier of its own. -/
def Call.BringsPlain : Call → Prop
  | .create new =>
      SetsText new.actions ∧ (∃ fields, new.actions = .obj fields) ∧
      new.id = none
  | .createAll drafts =>
      ∀ draft ∈ drafts, SetsText draft.actions ∧
        ∃ fields, draft.actions = .obj fields
  | _ => True

theorem Call.BringsPlain.brings {call : Call} (plain : call.BringsPlain) :
    call.Brings RuleRow.Plain := by
  intro other member
  cases call with
  | create new =>
      rw [List.mem_singleton.mp member]
      exact yields_plain plain.1 plain.2.1
  | createAll drafts =>
      obtain ⟨draft, memberDraft, rfl⟩ := List.mem_map.mp member
      obtain ⟨sets, object⟩ := plain draft memberDraft
      exact yields_plain sets object
  | _ => cases member

theorem Call.BringsPlain.leavesId {call : Call} (plain : call.BringsPlain) :
    call.LeavesId := by
  intro other member
  cases call with
  | create new =>
      rw [List.mem_singleton.mp member]
      exact plain.2.2
  | createAll drafts =>
      obtain ⟨draft, _, rfl⟩ := List.mem_map.mp member
      rfl
  | _ => cases member

end RuleSession

/-- A store whose rules were written by calls from an empty table on, as they
were last committed.  Its accounts have identifiers. -/
structure Store.Kept (store : Store) : Prop where
  rules : ∃ (origin : Store) (calls : List RuleSession.Call), origin.rules =
    [] ∧
    (∀ call ∈ calls, call.BringsPlain) ∧
    store.rules =
      ((RuleSession.start origin).performAll calls).committed.rules ∧
    store.ruleIds =
      ((RuleSession.start origin).performAll calls).committed.ruleIds
  accounts : ∀ row ∈ store.accounts, row.id ≠ ""

/-- What drafting needs of a store. -/
structure Store.Orderly (store : Store) : Prop where
  tabled : Tabled RuleRow.Plain store
  numbered : Numbered store
  accounts : ∀ row ∈ store.accounts, row.id ≠ ""

theorem Store.Kept.orderly {store : Store} (kept : store.Kept) :
    store.Orderly := by
  obtain ⟨origin, calls, empty, plain, sameRules, sameIds⟩ := kept.rules
  have numberedOrigin : Numbered origin := by
    intro row member
    rw [empty] at member
    cases member
  have holds := RuleSession.steady_plain.holds_performAll
    (RuleSession.holds_start (tabled_of_empty empty)) fun call member =>
      (plain call member).brings
  have numbered := RuleSession.isNumbered_performAll
    (RuleSession.isNumbered_start numberedOrigin) fun call member =>
      (plain call member).leavesId
  refine ⟨holds.committed.congr sameRules, ?_, kept.accounts⟩
  intro row member
  rw [sameRules] at member
  rw [sameIds]
  exact numbered.committed row member

namespace RuleRow

/-- Whether a rule detects accounts and sets the one with an identifier. -/
def detects (id : String) (row : RuleRow) : Bool :=
  row.ruleType = RuleKind.accountDetection.text &&
    match row.actions.field? "set_account" with
    | some (.str account) => account = id
    | _ => false

theorem Mirrors.detects_iff {row : RuleRow} (mirrors : row.Mirrors)
    {id : String} :
    row.detects id = true ↔ row.detectedAccount = some id := by
  by_cases type : row.ruleType = RuleKind.accountDetection.text
  · rw [detects, mirrors.account type]
    cases row.detectedAccount <;> simp [type]
  · rw [detects, mirrors.none type]
    simp [type]

theorem Mirrors.key?_of_detects {row : RuleRow} (mirrors : row.Mirrors)
    {id : String} (detects : row.detects id = true) :
    row.key? = some (RuleKind.accountDetection.text, id) := by
  rw [key?, mirrors.detects_iff.mp detects]
  simp only [RuleRow.detects, Bool.and_eq_true, decide_eq_true_eq] at detects
  rw [detects.1]
  rfl

theorem Plain.coveredBy_eq_ok {row : RuleRow} (plain : row.Plain) :
    Coverage.coveredBy row.covering = .ok (nonEmpty? row.detectedAccount) := by
  obtain ⟨fields, object⟩ := plain.actions
  have found : Json.lookUp "set_account" fields =
      row.actions.field? "set_account" := by
    rw [object]
    rfl
  by_cases type : row.ruleType = RuleKind.accountDetection.text
  · rw [Coverage.coveredBy_eq_ok object
      (found.trans (plain.mirrors.account type))]
    simp [covering, type]
  · have account? : ∃ account? : Option String,
        row.actions.field? "set_account" = account?.map Json.str := by
      cases set : row.actions.field? "set_account" with
      | none => exact ⟨none, rfl⟩
      | some value =>
          obtain ⟨account, rfl⟩ := plain.mirrors.setsText value set
          exact ⟨some account, rfl⟩
    obtain ⟨account?, set⟩ := account?
    rw [Coverage.coveredBy_eq_ok object (found.trans set),
      plain.mirrors.none type]
    simp [covering, type, nonEmpty?]

end RuleRow

namespace Store

/-- The accounts that rules cover, in the order of listings. -/
def coveredIds (store : Store) : List String :=
  (RuleSession.listed store.rules).filterMap fun row =>
    nonEmpty? row.detectedAccount

theorem mem_coveredIds {store : Store} {id : String} :
    id ∈ store.coveredIds ↔ id ≠ "" ∧ ∃ row ∈ store.rules,
      row.detectedAccount = some id := by
  simp only [coveredIds, List.mem_filterMap, RuleSession.listed,
    List.mem_mergeSort, nonEmpty?_eq_some_iff]
  constructor
  · rintro ⟨row, member, detected, named⟩
    exact ⟨named, row, member, detected⟩
  · rintro ⟨named, row, member, detected⟩
    exact ⟨row, member, detected, named⟩

theorem Orderly.covered_eq_ok {store : Store} (orderly : store.Orderly) :
    Coverage.covered (Service.coveringRules store) = .ok store.coveredIds := by
  have unedited : (RuleSession.start store).seen = id := rfl
  have listed : Service.coveringRules store =
      (RuleSession.listed store.rules).map RuleRow.covering := by
    rw [Service.coveringRules, RuleSession.all, unedited, List.map_id]
    rfl
  have each : ∀ row ∈ RuleSession.listed store.rules,
      Coverage.coveredBy row.covering =
        .ok (nonEmpty? row.detectedAccount) := by
    intro row member
    exact (orderly.tabled.rows row
      (List.mem_mergeSort.mp member)).coveredBy_eq_ok
  rw [listed, Coverage.covered_map_eq_ok each]
  rfl

end Store

namespace Service

open RuleSession (ofDraft)

/-- The accounts that drafting finds in need. -/
def needy (excluded : List String) (store : Store) : List Account :=
  Coverage.uncovered excluded store.coveredIds
    (store.activeAccounts.map AccountRow.account)

/-- The rules that are made of the drafts for accounts. -/
def newRules (priority : Int) (accounts : List Account) : List NewRule :=
  (accounts.map (Coverage.draft priority)).map ofDraft

theorem exists_account_of_newRules {priority : Int} {accounts : List Account}
    {new : NewRule} (member : new ∈ newRules priority accounts) :
    ∃ account ∈ accounts, ofDraft (Coverage.draft priority account) = new := by
  simpa [newRules] using member

section Drafts

variable {excluded : List String} {store after : Store} {priority : Int}
  {rows : List RuleRow}

theorem draftRules_eq_ok (orderly : store.Orderly) (priority : Int)
    (excluded : List String) :
    draftRules priority excluded store =
      .ok ((needy excluded store).map (Coverage.draft priority)) := by
  rw [draftRules_eq, Coverage.drafts_eq_ok orderly.covered_eq_ok]
  rfl

theorem mem_activeAccounts {row : AccountRow} :
    row ∈ store.activeAccounts ↔
      row ∈ store.accounts ∧ row.isActive = true ∧ row.isDeleted = false := by
  simp [Store.activeAccounts, Store.byCreation]

theorem key?_ofDraft (priority : Int) (account : Account) :
    (ofDraft (Coverage.draft priority account)).key? =
      some (RuleKind.accountDetection.text, account.id) :=
  rfl

private theorem key?_ne_of_needy (orderly : store.Orderly) {account : Account}
    (member : account ∈ needy excluded store) {row : RuleRow}
    (stored : row ∈ store.rules) :
    row.key? ≠ some (RuleKind.accountDetection.text, account.id) := by
  intro key
  obtain ⟨given, _, fresh⟩ := Coverage.of_mem_uncovered member
  obtain ⟨source, active, rfl⟩ := List.mem_map.mp given
  apply fresh
  exact Store.mem_coveredIds.mpr
    ⟨orderly.accounts source (mem_activeAccounts.mp active).1, row, stored,
      Store.detectedAccount_of_key? key⟩

theorem insertRules_newRules (orderly : store.Orderly)
    (fits : Date.fitsInteger priority = true) (excluded : List String) :
    ∃ rows after, store.insertRules (newRules priority (needy excluded store)) =
      .ok (rows, after) := by
  apply Store.insertRules_eq_ok orderly.numbered
  · intro new member
    obtain ⟨account, _, rfl⟩ := exists_account_of_newRules member
    exact ⟨rfl, rfl, rfl, fits⟩
  · intro new member key newKey row stored
    obtain ⟨account, memberNeedy, rfl⟩ := exists_account_of_newRules member
    rw [key?_ofDraft] at newKey
    cases newKey
    exact key?_ne_of_needy orderly memberNeedy stored
  · have distinct := Coverage.nodup_ids_uncovered excluded store.coveredIds
      (store.activeAccounts.map AccountRow.account)
    rw [newRules, List.pairwise_map, List.pairwise_map]
    refine (List.pairwise_map.mp distinct).imp ?_
    intro left right apart key leftKey rightKey
    rw [key?_ofDraft] at leftKey rightKey
    cases leftKey
    exact apart (Prod.mk.inj (Option.some.inj rightKey)).2.symm

theorem insertRules_newRules_ne_conflict (orderly : store.Orderly)
    (priority : Int) (excluded : List String) :
    store.insertRules (newRules priority (needy excluded store)) ≠
      .error .conflict := by
  intro conflict
  by_cases fits : Date.fitsInteger priority = true
  · obtain ⟨rows, after, inserting⟩ :=
      insertRules_newRules orderly fits excluded
    rw [inserting] at conflict
    cases conflict
  · cases accounts : needy excluded store with
    | nil =>
        rw [accounts] at conflict
        cases conflict
    | cons account rest =>
        have tooLarge : Store.storedInt priority = .error .overflow := by
          rw [Store.storedInt, if_neg fits]
        have overflows :
            store.insertRule (ofDraft (Coverage.draft priority account)) =
            .error .overflow := by
          simp only [Store.insertRule, ofDraft, RuleSession.withDetectedAccount,
            Coverage.draft, tooLarge]
          rfl
        simp only [accounts, newRules, List.map_cons, Store.insertRules,
          overflows] at conflict
        cases conflict

end Drafts

section Stored

variable {excluded : List String} {store after : Store} {priority : Int}
  {rows : List RuleRow} (orderly : store.Orderly)
  (inserting : store.insertRules (newRules priority (needy excluded store)) =
    .ok (rows, after))
    

include orderly inserting

theorem orderly_of_inserted : after.Orderly := by
  have accounts := (Store.insertedRules_of_insertRules inserting).accounts
  refine ⟨Store.tabled_of_insertRules inserting orderly.tabled ?_,
    Store.numbered_of_insertRules inserting orderly.numbered ?_, ?_⟩
  · intro new member
    obtain ⟨account, _, rfl⟩ := exists_account_of_newRules member
    exact RuleSession.yields_plain (setsText_draft priority account) ⟨_, rfl⟩
  · intro new member
    obtain ⟨account, _, rfl⟩ := exists_account_of_newRules member
    rfl
  · rw [accounts]
    exact orderly.accounts

theorem mem_coveredIds_of_needs {account : AccountRow}
    (active : account ∈ store.activeAccounts)
    (needs : Coverage.Needs excluded account.account) :
    account.id ∈ after.coveredIds := by
  have inserted := Store.insertedRules_of_insertRules inserting
  have named : account.id ≠ "" := orderly.accounts account
    (mem_activeAccounts.mp active).1
  have found : account.id ∈ store.coveredIds ∨
      ∃ other ∈ needy excluded store, other.id = account.id :=
    Coverage.done_or_uncovered (List.mem_map_of_mem active) needs
  rw [Store.mem_coveredIds, inserted.rules]
  refine ⟨named, ?_⟩
  rcases found with old | ⟨other, left, same⟩
  · obtain ⟨_, row, stored, detected⟩ := Store.mem_coveredIds.mp old
    exact ⟨row, List.mem_append_left rows stored, detected⟩
  · have drafted : ofDraft (Coverage.draft priority other) ∈
        newRules priority (needy excluded store) :=
      List.mem_map_of_mem (List.mem_map_of_mem left)
    have key := List.mem_map_of_mem (f := NewRule.key?) drafted
    rw [← inserted.keys] at key
    obtain ⟨row, stored, rowKey⟩ := List.mem_map.mp key
    rw [key?_ofDraft, same] at rowKey
    exact ⟨row, List.mem_append_right store.rules stored,
      Store.detectedAccount_of_key? rowKey⟩

theorem needy_eq_nil : needy excluded after = [] := by
  have accounts : after.activeAccounts = store.activeAccounts := by
    rw [Store.activeAccounts,
      (Store.insertedRules_of_insertRules inserting).accounts]
    rfl
  rw [needy, accounts]
  apply Coverage.uncovered_eq_nil
  intro account member needs
  obtain ⟨source, active, rfl⟩ := List.mem_map.mp member
  exact mem_coveredIds_of_needs orderly inserting active needs

end Stored

/-- An account in use of a type that is not excluded, which has words to be told
by. -/
structure Wants (excluded : List String) (row : AccountRow) : Prop where
  isActive : row.isActive = true
  kept : row.isDeleted = false
  type : row.type ∉ excluded
  words : ∃ word, (row.institution = some word ∨ row.lastFour = some word) ∧
    trimBlank word ≠ ""

theorem Wants.needs {excluded : List String} {row : AccountRow}
    (wants : Wants excluded row) :
    Coverage.Needs excluded row.account := by
  obtain ⟨word, given, visible⟩ := wants.words
  refine ⟨?_, Coverage.keywords_ne_nil given visible⟩
  simp [Coverage.isEligible, AccountRow.account, wants.isActive, wants.kept,
    wants.type]

theorem length_filter_eq_one {Item : Type} {items : List Item}
    {chosen : Item → Bool} (present : ∃ item ∈ items, chosen item = true)
    (apart : items.Pairwise fun left right =>
      ¬ (chosen left = true ∧ chosen right = true)) :
    (items.filter chosen).length = 1 := by
  have kept := apart.filter chosen
  have member : ∀ item ∈ items.filter chosen, chosen item = true :=
    fun item found => (List.mem_filter.mp found).2
  obtain ⟨item, given, isChosen⟩ := present
  have still : item ∈ items.filter chosen :=
    List.mem_filter.mpr ⟨given, isChosen⟩
  cases found : items.filter chosen with
  | nil =>
      rw [found] at still
      cases still
  | cons first rest =>
      rw [found] at kept member
      cases rest with
      | nil => rfl
      | cons second others =>
          have both : chosen first = true ∧ chosen second = true :=
            ⟨member first List.mem_cons_self,
              member second (List.mem_cons_of_mem first List.mem_cons_self)⟩
          exact ((List.pairwise_cons.mp kept).1 second List.mem_cons_self
            both).elim

theorem length_detects_eq_one {store : Store} (orderly : store.Orderly)
    {id : String} (covered : id ∈ store.coveredIds) :
    (store.rules.filter (·.detects id)).length = 1 := by
  have plain := orderly.tabled.rows
  obtain ⟨_, row, stored, detected⟩ := Store.mem_coveredIds.mp covered
  apply length_filter_eq_one
  · exact ⟨row, stored, (plain row stored).mirrors.detects_iff.mpr detected⟩
  · refine orderly.tabled.compatible.imp_of_mem ?_
    rintro left right memberLeft memberRight compatible
      ⟨detectsLeft, detectsRight⟩
    have leftKey := (plain left memberLeft).mirrors.key?_of_detects detectsLeft
    have rightKey := (plain right memberRight).mirrors.key?_of_detects
      detectsRight
    have clashes := Store.clash_eq_true_iff.mpr ⟨_, leftKey, rightKey⟩
    rw [compatible.apart] at clashes
    cases clashes

/-- What a successful drafting of rules leaves: as many new rules behind the
others as it tells, and exactly one rule for every account that wants one. -/
structure Generated (excluded : List String) (store after : Store)
    (count : Nat) : Prop where
  accounts : after.accounts = store.accounts
  rules : ∃ rows, after.rules = store.rules ++ rows ∧ rows.length = count
  one : ∀ row ∈ store.accounts, Wants excluded row →
    (after.rules.filter (·.detects row.id)).length = 1

/-- Drafting rules in a store creates none and leaves the store, by request or
by command. -/
structure Idle (settings : Settings) (store : Store) : Prop where
  request : createDraftedUnder settings store =
    .unchanged store (.answer 200 (draftedBody nothingToDraft 0 (.arr [])))
  command : ∀ options, (Command.generateUnder settings options store).result =
    .ok (0, store)

section Runs

variable {settings : Settings} {store after : Store} {priority : Int}
  {rows : List RuleRow}

theorem generated_of_inserted {excluded : List String} (orderly : store.Orderly)
    (inserting : store.insertRules (newRules priority (needy excluded store)) =
      .ok (rows, after))
    : Generated excluded store after (needy excluded store).length := by
  have inserted := Store.insertedRules_of_insertRules inserting
  refine ⟨inserted.accounts, ⟨rows, inserted.rules, ?_⟩, ?_⟩
  · rw [← inserted.filled.length_eq]
    simp [newRules]
  · intro row member wants
    have active : row ∈ store.activeAccounts :=
      mem_activeAccounts.mpr ⟨member, wants.isActive, wants.kept⟩
    exact length_detects_eq_one (orderly_of_inserted orderly inserting)
      (mem_coveredIds_of_needs orderly inserting active wants.needs)

theorem idle_of_needy_eq_nil (orderly : store.Orderly)
    (none : needy settings.excludedTypes store = []) : Idle settings store := by
  have drafted : ∀ priority, draftRules priority settings.excludedTypes store =
      .ok [] := by
    intro priority
    rw [draftRules_eq_ok orderly, none]
    rfl
  constructor
  · simp only [createDraftedUnder, drafted]
    rfl
  · intro options
    simp only [Command.generateUnder, drafted]
    simp

theorem showRules_newRules {accounts : List Account}
    (inserting : store.insertRules (newRules priority accounts) =
      .ok (rows, after)) :
    ∃ shown, showRules rows = .ok shown := by
  have shownRows :=
    isShown_of_committed ((committed_flush _ store).trans inserting) (by
    intro new member
    obtain ⟨account, _, rfl⟩ := exists_account_of_newRules member
    exact isShown_draft priority account)
  obtain ⟨shown, showing⟩ := showRules_eq_ok shownRows
  refine ⟨.arr shown, ?_⟩
  rw [showRules, showing]
  rfl

theorem createDraftedUnder_eq (orderly : store.Orderly) :
    createDraftedUnder settings store =
      storeDrafts ((needy settings.excludedTypes store).map
        (Coverage.draft settings.detectionPriority)) store := by
  rw [createDraftedUnder, draftRules_eq_ok orderly]

theorem status_ne_conflict (orderly : store.Orderly) {response : Response}
    (answered : (createDraftedUnder settings store).result = .ok response) :
    response.status ≠ 409 := by
  rw [createDraftedUnder_eq orderly] at answered
  have stored := stored_storeDrafts ((needy settings.excludedTypes store).map
    (Coverage.draft settings.detectionPriority)) store
  generalize storeDrafts _ store = outcome at answered stored
  cases stored with
  | nothing =>
      cases answered
      decide
  | conflicting conflict =>
      exact (insertRules_newRules_ne_conflict orderly _ _ conflict).elim
  | failed => cases answered
  | inserted =>
      obtain ⟨shown, _, answered⟩ := bind_eq_ok_iff.mp answered
      cases answered
      exact (by decide : 201 ≠ 409)

theorem createDraftedUnder_of_inserted (orderly : store.Orderly)
    (inserting :
      store.insertRules
      (newRules settings.detectionPriority
      (needy settings.excludedTypes store)) = .ok (rows, after)) :
    ∃ response, createDraftedUnder settings store = ⟨after, .ok response⟩ ∧
      response.created? =
        some ((needy settings.excludedTypes store).length : Int) := by
  have count := (Store.insertedRules_of_insertRules inserting).filled.length_eq
  have stored := stored_storeDrafts ((needy settings.excludedTypes store).map
    (Coverage.draft settings.detectionPriority)) store
  obtain ⟨shown, showing⟩ := showRules_newRules inserting
  rw [createDraftedUnder_eq orderly]
  generalize storeDrafts _ store = outcome at stored
  cases stored with
  | nothing none =>
      rw [List.map_eq_nil_iff.mp none] at inserting ⊢
      cases inserting
      exact ⟨_, rfl, rfl⟩
  | conflicting conflict =>
      have same := inserting.symm.trans conflict
      cases same
  | failed failing =>
      have same := inserting.symm.trans failing
      cases same
  | inserted insertingAgain =>
      have same := inserting.symm.trans insertingAgain
      cases same
      rw [newRules, List.length_map, List.length_map] at count
      rw [showing, ← count]
      exact ⟨_, rfl, rfl⟩

theorem result_generateUnder (orderly : store.Orderly)
    (options : Command.Options) :
    (Command.generateUnder settings options store).result =
      if options.dryRun then
        .ok ((needy settings.excludedTypes store).length, store)
      else do
        let (_, after) ← store.insertRules (newRules
          (options.priority.getD settings.detectionPriority)
            (needy settings.excludedTypes store))
        return ((needy settings.excludedTypes store).length, after) := by
  have flushing : ∀ drafts : List RuleDraft,
      committed (RuleSession.createAll drafts) store =
      store.insertRules (drafts.map ofDraft) :=
    fun drafts => committed_flush _ store
  simp only [Command.generateUnder, draftRules_eq_ok orderly, flushing,
    List.length_map]
  cases dryRun : options.dryRun with
  | true => rfl
  | false =>
      cases found : needy settings.excludedTypes store with
      | nil => rfl
      | cons account rest =>
          simp only [List.map_cons, List.isEmpty_cons, Bool.or_false,
            Bool.false_eq_true, if_false, newRules]
          cases store.insertRules _ <;> rfl

/-- The generating of rules in every store that calls left: it never clashes; a
dry run tells how many rules there will be; and when the priority fits, by
request as by command, so many rules are stored, every account that wants one
has exactly one rule that detects it, and generating again does nothing. -/
theorem generates_of_kept (kept : store.Kept) (settings : Settings) :
    (∀ response, (createDraftedUnder settings store).result = .ok response →
        response.status ≠ 409) ∧
      (∀ options, (Command.generateUnder settings options store).result ≠
        .error .conflict) ∧
      ∃ count : Nat,
        (∀ priority?,
          (Command.generateUnder settings ⟨true, priority?⟩ store).result =
          .ok (count, store)) ∧
        (Date.fitsInteger settings.detectionPriority = true →
          ∃ after response,
            createDraftedUnder settings store = ⟨after, .ok response⟩ ∧
            response.created? = some (count : Int) ∧
            Generated settings.excludedTypes store after count ∧
            Idle settings after) ∧
        ∀ priority?,
          Date.fitsInteger (priority?.getD settings.detectionPriority) = true →
          ∃ after, (Command.generateUnder settings ⟨false, priority?⟩
            store).result =
              .ok (count, after) ∧
            Generated settings.excludedTypes store after count ∧
            Idle settings after := by
  have orderly := kept.orderly
  refine ⟨fun response => status_ne_conflict orderly, ?_,
    (needy settings.excludedTypes store).length, ?_, ?_, ?_⟩
  · intro options
    rw [result_generateUnder orderly]
    cases options.dryRun with
    | true => nofun
    | false =>
        intro failed
        rcases bind_eq_error_iff.mp failed with conflict | ⟨_, _, impossible⟩
        · exact insertRules_newRules_ne_conflict orderly _ _ conflict
        · cases impossible
  · intro priority?
    rw [result_generateUnder orderly]
    rfl
  · intro fits
    obtain ⟨rows, after, inserting⟩ :=
      insertRules_newRules orderly fits settings.excludedTypes
    obtain ⟨response, answered, created⟩ :=
      createDraftedUnder_of_inserted orderly inserting
    exact ⟨after, response, answered, created,
      generated_of_inserted orderly inserting, idle_of_needy_eq_nil
        (orderly_of_inserted orderly inserting)
        (needy_eq_nil orderly inserting)⟩
  · intro priority? fits
    obtain ⟨rows, after, inserting⟩ :=
      insertRules_newRules orderly fits settings.excludedTypes
    refine ⟨after, ?_, generated_of_inserted orderly inserting,
      idle_of_needy_eq_nil (orderly_of_inserted orderly inserting)
        (needy_eq_nil orderly inserting)⟩
    rw [result_generateUnder orderly]
    simp only [inserting]
    rfl

end Runs

/-- A rule for the other account is created, switched off and committed. -/
def switchingOff : List RuleSession.Call :=
  [.create (RuleSession.detecting "Savings" "savings"),
    .activate false "rule-1", .commit]

/-- The store with the rule that was switched off. -/
def switchedOff : Store :=
  { banked with
    rules := ((RuleSession.start banked).performAll
      switchingOff).committed.rules
    ruleIds := ((RuleSession.start banked).performAll
      switchingOff).committed.ruleIds }

/-- The account in use at a bank. -/
def bankAccount : AccountRow where
  id := "wallet"
  name := "wallet"
  type := "checking"
  institution := some "Bank"
  lastFour := none
  currency := Store.defaultCurrency
  balance := .finite false 0 0
  isActive := true
  isDeleted := false
  createdAt := 0

theorem wants_bankAccount : Wants Coverage.excludedByDefault bankAccount :=
  ⟨rfl, rfl, by decide, "Bank", .inl rfl, by decide⟩

/-- A command with a priority that does not fit fails, and the account that
wants a rule is left without one, though a dry run tells of a rule. -/
theorem not_generated_vast :
    banked.Kept ∧ bankAccount ∈ banked.accounts ∧
      Wants Coverage.excludedByDefault bankAccount ∧
      (Command.run ⟨true, some (2 ^ 63)⟩ banked).2.1 =
        "  Account: wallet -> [Bank]\n\nDry run: 1 rules would be created\n" ∧
      (Command.run ⟨false, some (2 ^ 63)⟩ banked).1 = 1 ∧
      ((Command.run ⟨false, some (2 ^ 63)⟩ banked).2.2.rules.filter
        (·.detects bankAccount.id)).length = 0 := by
  have kept : banked.Kept :=
    ⟨⟨banked, [], rfl, List.forall_mem_nil _, rfl, rfl⟩, by decide⟩
  refine ⟨kept, List.mem_cons_self, wants_bankAccount, ?_, ?_, ?_⟩ <;>
    decide +kernel

theorem generates_of_kept_switchedOff :
    switchedOff.Kept ∧ switchedOff.rules.map RuleRow.isActive = [false] ∧
      ∃ after response,
        createDraftedUnder {} switchedOff = ⟨after, .ok response⟩ ∧
        response.created? = some 1 ∧
        (after.rules.filter (·.detects bankAccount.id)).length = 1 ∧
        Idle {} after := by
  have kept : switchedOff.Kept := by
    refine ⟨⟨banked, switchingOff, rfl, ?_, rfl, rfl⟩, by decide⟩
    intro call member
    simp only [switchingOff, List.mem_cons, List.not_mem_nil, or_false]
      at member
    rcases member with rfl | rfl | rfl
    · exact ⟨by decide, ⟨_, rfl⟩, rfl⟩
    · trivial
    · trivial
  obtain ⟨_, _, count, dry, real, _⟩ := generates_of_kept kept {}
  obtain ⟨after, response, answered, created, generated, idle⟩ :=
    real (by decide)
  have single :
      (Command.generateUnder {} ⟨true, none⟩ switchedOff).result.toOption.map
      Prod.fst =
      some 1 := by
    decide +kernel
  rw [dry none] at single
  cases single
  refine ⟨kept, by decide +kernel, after, response, answered, created, ?_, idle⟩
  exact generated.one bankAccount List.mem_cons_self wants_bankAccount

end Service

end LedgerRules
