import LedgerRules.Proofs.Account.Coverage
import LedgerRules.Proofs.Service.Handling
import LedgerRules.Proofs.Store.Duplicates
import LedgerRules.Proofs.Store.Insertions
import LedgerRules.Proofs.Store.RuleCalls

/-!
# What requests do to the rules

Requests for a rule and for drafted rules insert rules, all of them or none.
Every other request leaves the table of rules.  So the table only grows behind
its end, and what it gains keeps the account that its actions set.
-/

namespace LedgerRules

namespace Service

open Store (Tabled NewRule)

/-- A store whose table of rules is the one of another store with inserted rows
behind it, which keep the accounts that their actions set. -/
inductive GrownBy (rows : List RuleRow) (store after : Store) : Prop where
  | intro {news : List NewRule} {between : Store}
      (inserting : store.insertRules news = .ok (rows, between))
      (yields : ∀ new ∈ news, new.Yields RuleRow.Mirrors)
      (same : after.rules = between.rules)

section Growth

variable {store after : Store} {rows : List RuleRow}

theorem grownBy_nil (same : after.rules = store.rules) :
    GrownBy [] store after :=
  ⟨(rfl : store.insertRules [] = .ok ([], store)), List.forall_mem_nil _, same⟩

theorem GrownBy.rules_eq (grown : GrownBy rows store after) :
    after.rules = store.rules ++ rows := by
  obtain ⟨inserting, _, same⟩ := grown
  rw [same]
  exact (Store.insertedRules_of_insertRules inserting).rules

theorem GrownBy.tabled (grown : GrownBy rows store after)
    (tabled : Tabled RuleRow.Mirrors store) : Tabled RuleRow.Mirrors after := by
  obtain ⟨inserting, yields, same⟩ := grown
  exact (Store.tabled_of_insertRules inserting tabled yields).congr same

end Growth

theorem yields_newRule (request : Payload.RuleRequest) :
    (RuleSession.withDetectedAccount (newRule request)).Yields
      RuleRow.Mirrors :=
  RuleSession.yields_withDetectedAccount
    (RuleSession.setsText_withoutNulls request.actions)

theorem yields_ofDraft {drafts : List RuleDraft}
    (sets : ∀ draft ∈ drafts, SetsText draft.actions) :
    ∀ new ∈ drafts.map RuleSession.ofDraft, new.Yields RuleRow.Mirrors := by
  intro new member
  obtain ⟨draft, memberDraft, rfl⟩ := List.mem_map.mp member
  exact RuleSession.yields_withDetectedAccount (sets draft memberDraft)

/-- What becomes of a request for a rule: nothing, or the rule is inserted. -/
inductive Created (body : Json) (store : Store) : Outcome → Prop where
  | refused {response : Response} (status : failureStatus ≤ response.status) :
      Created body store (.unchanged store response)
  | failed (fault : StoreFault) : Created body store (.failed store fault)
  | inserted {request : Payload.RuleRequest} {rows : List RuleRow}
      {after : Store}
      {result : Except StoreFault Response}
      (accepted : checkBody (Payload.RuleRequest.check .request) body =
        .accepted request)
      (inserting :
        store.insertRules [RuleSession.withDetectedAccount (newRule request)] =
        .ok (rows, after)) :
      Created body store ⟨after, result⟩

theorem created_createRule (body : Json) (store : Store) :
    Created body store (createRule body store) := by
  cases checked : checkBody (Payload.RuleRequest.check .request) body with
  | rejected problems =>
      simp only [createRule, checked]
      exact .refused (failureStatus_le_invalid problems)
  | overflowed =>
      simp only [createRule, checked]
      exact .failed .overflow
  | accepted request =>
      have flushing : committed (RuleSession.create (newRule request)) store =
          store.insertRules
            [RuleSession.withDetectedAccount (newRule request)] :=
        committed_flush _ store
      simp only [createRule, checked, flushing]
      split
      case h_1 => exact .refused (by decide : failureStatus ≤ 409)
      case h_2 fault _ _ => exact .failed fault
      case h_3 inserting => exact .inserted checked inserting

/-- The number of created rules that an answer tells. -/
def Response.created? : Response → Option Int
  | .answer _ body =>
      match body.field? "created" with
      | some (.int count) => some count
      | _ => none
  | .invalid _ => none

/-- The rules of a store as coverage reads them. -/
def coveringRules (store : Store) : List CoveringRule :=
  (RuleSession.start store).all.map RuleRow.covering

/-- What becomes of drafts: nothing, or all of them are inserted. -/
inductive Stored (drafts : List RuleDraft) (store : Store) :
    Outcome → Prop where
  | nothing (none : drafts = []) :
      Stored drafts store
        (.unchanged store
        (.answer 200 (draftedBody nothingToDraft 0 (.arr []))))
  | conflicting
      (conflict : store.insertRules (drafts.map RuleSession.ofDraft) =
        .error .conflict) :
      Stored drafts store
        (.unchanged store
          (.detail 409 "Account rules were generated concurrently; retry"))
  | failed {fault : StoreFault}
      (failing : store.insertRules (drafts.map RuleSession.ofDraft) =
        .error fault) :
      Stored drafts store (.failed store fault)
  | inserted {rows : List RuleRow} {after : Store}
      (inserting : store.insertRules (drafts.map RuleSession.ofDraft) =
        .ok (rows, after)) :
      Stored drafts store ⟨after, do
        return .answer 201 (draftedBody
          ("Generated " ++ toString rows.length ++ " account detection rules")
            rows.length
          (← showRules rows))⟩

theorem stored_storeDrafts (drafts : List RuleDraft) (store : Store) :
    Stored drafts store (storeDrafts drafts store) := by
  have flushing : committed (RuleSession.createAll drafts) store =
      store.insertRules (drafts.map RuleSession.ofDraft) :=
    committed_flush _ store
  unfold storeDrafts
  split
  case h_1 => exact .nothing rfl
  case h_2 =>
    rw [flushing]
    split
    case h_1 conflict => exact .conflicting conflict
    case h_2 failing => exact .failed failing
    case h_3 inserting => exact .inserted inserting

theorem grownBy_storeDrafts {drafts : List RuleDraft}
    (sets : ∀ draft ∈ drafts, SetsText draft.actions) (store : Store) :
    ∃ rows, GrownBy rows store (storeDrafts drafts store).store := by
  have stored := stored_storeDrafts drafts store
  generalize storeDrafts drafts store = outcome at stored
  cases stored with
  | nothing => exact ⟨[], grownBy_nil rfl⟩
  | conflicting => exact ⟨[], grownBy_nil rfl⟩
  | failed => exact ⟨[], grownBy_nil rfl⟩
  | @inserted rows _ inserting =>
      exact ⟨rows, inserting, yields_ofDraft sets, rfl⟩

theorem draftRules_eq (priority : Int) (excluded : List String)
    (store : Store) :
    draftRules priority excluded store =
      (Coverage.drafts priority excluded
        (store.activeAccounts.map AccountRow.account)
        (coveringRules store) (some (coveringRules store))).mapError fun _ =>
          .notAnObject := by
  rw [draftRules, coveringRules]
  cases Coverage.drafts priority excluded
    (store.activeAccounts.map AccountRow.account)
    ((RuleSession.start store).all.map RuleRow.covering)
    (some ((RuleSession.start store).all.map RuleRow.covering)) <;> rfl

theorem exists_needy_of_draftRules {priority : Int} {excluded : List String}
    {store : Store} {drafts : List RuleDraft}
    (success : draftRules priority excluded store = .ok drafts) :
    ∃ needy : List Account, drafts = needy.map (Coverage.draft priority) := by
  rw [draftRules_eq, mapError_eq_ok_iff] at success
  obtain ⟨needy, made, _⟩ := Coverage.exists_needy_of_drafts success
  exact ⟨needy, made⟩

theorem setsText_draft (priority : Int) (account : Account) :
    SetsText (Coverage.draft priority account).actions := by
  intro value found
  exact ⟨account.id, (Option.some.inj found).symm⟩

theorem setsText_drafts (priority : Int) (needy : List Account) :
    ∀ draft ∈ needy.map (Coverage.draft priority), SetsText draft.actions := by
  intro draft member
  obtain ⟨account, _, rfl⟩ := List.mem_map.mp member
  exact setsText_draft priority account

theorem grownBy_createDraftedUnder (settings : Settings) (store : Store) :
    ∃ rows, GrownBy rows store (createDraftedUnder settings store).store := by
  unfold createDraftedUnder
  split
  case h_1 => exact ⟨[], grownBy_nil rfl⟩
  case h_2 drafts drafted =>
    obtain ⟨needy, rfl⟩ := exists_needy_of_draftRules drafted
    exact grownBy_storeDrafts (setsText_drafts settings.detectionPriority needy)
      store

theorem rules_booked {mode : BookingMode}
    {transaction : Payload.TransactionRequest} {store after : Store}
    {row : TransactionRow}
    (success : booked mode transaction store = .ok (row, after)) :
    after.rules = store.rules := by
  obtain ⟨_, resolved, ready, resolving, _, _, replacing, booking⟩ :=
    booked_eq_ok success
  have resolvedRules : resolved.rules = store.rules := by
    rw [(resolved_of_resolveRequest resolving).2]
  have readyRules : ready.rules = resolved.rules := by
    rcases replaced_eq_ok replacing with rfl | ⟨_, _, rfl⟩ <;> rfl
  calc
    after.rules = ready.rules := (Store.sameSurroundings_of_book booking).rules
    _ = resolved.rules := readyRules
    _ = store.rules := resolvedRules

theorem rules_createTransaction (query : List (String × String)) (body : Json)
    (store : Store) :
    (createTransaction query body store).store.rules = store.rules := by
  cases checked :
    checkBody (Payload.TransactionRequest.check .request store.clock.today) body
    with
  | accepted transaction =>
      rw [createTransaction_eq checked]
      cases checkBookingMode query with
      | accepted mode =>
          dsimp only
          cases success : booked mode transaction store with
          | ok result => exact rules_booked success
          | error refusal => rw [store_bookingOutcome_error]
      | rejected problems => rfl
      | overflowed => rfl
  | rejected problems =>
      rw [store_createTransaction_of_refused]
      intro mode transaction _ accepted
      rw [checked] at accepted
      cases accepted
  | overflowed =>
      rw [store_createTransaction_of_refused]
      intro mode transaction _ accepted
      rw [checked] at accepted
      cases accepted

theorem rules_preview (body : Json) (store : Store) :
    (preview body store).store.rules = store.rules := by
  unfold preview
  split
  case h_1 => rfl
  case h_2 => rfl
  case h_3 request _ =>
    split
    case h_1 => rfl
    case h_2 resolving =>
      rw [(resolved_of_resolveWith resolving).2]
      rfl

theorem store_listRules (query : List (String × String)) (store : Store) :
    (listRules query store).store = store := by
  unfold listRules
  split <;> rfl

theorem grownBy_withBody {body? : Option String} {store : Store}
    {handler : Json → Outcome}
    (handles : ∀ body, ∃ rows, GrownBy rows store (handler body).store) :
    ∃ rows, GrownBy rows store (withBody body? store handler).store := by
  unfold withBody
  split
  · exact handles _
  · exact ⟨[], grownBy_nil rfl⟩
  · exact ⟨[], grownBy_nil rfl⟩

theorem grownBy_createRule (body : Json) (store : Store) :
    ∃ rows, GrownBy rows store (createRule body store).store := by
  have created := created_createRule body store
  generalize createRule body store = outcome at created
  cases created with
  | refused => exact ⟨[], grownBy_nil rfl⟩
  | failed => exact ⟨[], grownBy_nil rfl⟩
  | @inserted request rows after _ _ inserting =>
      refine ⟨rows, inserting, ?_, rfl⟩
      intro new member
      rw [List.mem_singleton.mp member]
      exact yields_newRule request

/-- Whatever is requested, the table of rules is left or grows behind its
end. -/
theorem grownBy_respond (request : Request) (store : Store) :
    ∃ rows, GrownBy rows store (respond request store).store := by
  obtain ⟨rows, inserting, yields, same⟩ :
      ∃ rows, GrownBy rows store (handle request store).store := by
    unfold handle
    split
    case h_4 => exact ⟨[],
      grownBy_nil (congrArg Store.rules (store_listRules _ store))⟩
    case h_5 => exact grownBy_withBody fun body => grownBy_createRule body store
    case h_6 => exact grownBy_createDraftedUnder {} store
    case h_7 => exact grownBy_withBody fun body =>
      ⟨[], grownBy_nil (rules_preview body store)⟩
    case h_8 =>
      exact grownBy_withBody fun body =>
        ⟨[], grownBy_nil (rules_createTransaction request.query body store)⟩
    all_goals exact ⟨[], grownBy_nil rfl⟩
  exact ⟨rows, inserting, yields,
    (sends_respond request store).tables.rules.trans same⟩

/-- The store after several requests. -/
def respondAll (requests : List Request) (store : Store) : Store :=
  requests.foldl (fun store request => (respond request store).store) store

theorem rules_prefix_respondAll (requests : List Request) (store : Store) :
    store.rules <+: (respondAll requests store).rules := by
  induction requests generalizing store with
  | nil => exact List.prefix_rfl
  | cons request rest induction =>
      obtain ⟨rows, grown⟩ := grownBy_respond request store
      have first : store.rules <+: (respond request store).store.rules := by
        rw [grown.rules_eq]
        exact List.prefix_append store.rules rows
      exact first.trans (induction (respond request store).store)

/-- A store with an account in use at a bank, another account, and no rules, on
which drafting is tried. -/
def banked : Store :=
  { wallets with
    accounts := wallets.accounts.map fun row =>
      { row with institution := some "Bank", isActive := row.id = "wallet" } }

end Service

end LedgerRules
