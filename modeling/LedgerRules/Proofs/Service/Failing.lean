import LedgerRules.Proofs.Service.Showing

/-!
# Requests that fail

A request that writes and fails leaves the tables as they were, unless it books
a row that cannot be shown: an amount that is past all doubles is stored as an
infinity, and applied rules are stored however deeply they are nested.  Then the
booking is done, and its answer fails.
-/

namespace LedgerRules

namespace Service

private theorem isFinite_unsignedZero (double : Double) :
    double.unsignedZero.isFinite = double.isFinite := by
  cases double with
  | finite negative significand exponent => cases significand <;> rfl
  | _ => rfl

theorem keeps_of_book {resolution : Resolution}
    {duplicateStatus : Option String} {store after : Store}
    {row : TransactionRow}
    (success : store.book resolution duplicateStatus = .ok (row, after)) :
    Keeps row resolution.appliedRules := by
  obtain ⟨accountId, between, _, _, inserted, _⟩ :=
    Store.insertsPrimary_of_book success
  rw [Keeps, inserted.appliedRules, Store.primary]

/-- A resolution for a booking takes over the applied rules of the request, or
is credited with shallow ones when the request has none. -/
theorem isShallow_iff_of_resolveRequest {request : Payload.TransactionRequest}
    {store resolved : Store} {resolution : Resolution}
    (success : resolveRequest request store = .ok (resolution, resolved)) :
    (∀ entry ∈ resolution.appliedRules, entry.IsShallow) ↔
      ∀ entry ∈ request.appliedRules.getD [], entry.IsShallow := by
  unfold resolveRequest at success
  dsimp only at success
  split at success
  case h_1 none =>
    obtain ⟨_, resolving, _⟩ := resolveWith_eq_ok_iff.mp success
    rw [none]
    constructor
    · intro _
      exact List.forall_mem_nil _
    · intro _ entry member
      obtain ⟨actions, credits⟩ :=
        Resolution.credits_of_resolve resolving entry member
      exact AppliedRule.isShallow_of_credits credits
  case h_2 =>
    obtain ⟨_, _, success⟩ := bind_eq_ok_iff.mp success
    cases success
    exact Iff.rfl

/-- What a booking leaves: a row with the amount as it is stored, with applied
rules that are shallow if those of the request are, and more rows than
before. -/
theorem row_of_booked {mode : BookingMode}
    {transaction : Payload.TransactionRequest} {store after : Store}
    {row : TransactionRow}
    (success : booked mode transaction store = .ok (row, after)) :
    row.amount = transaction.candidate.amount.toDouble.unsignedZero ∧
      (∃ applied, Keeps row applied ∧ ((∀ entry ∈ applied, entry.IsShallow) ↔
        ∀ entry ∈ transaction.appliedRules.getD [], entry.IsShallow)) ∧
      store.transactions.length < after.transactions.length := by
  obtain ⟨resolution, resolved, ready, resolving, _, _, replacing, booking⟩ :=
    booked_eq_ok success
  obtain ⟨outcome, same⟩ := resolved_of_resolveRequest resolving
  have posted := Store.posted_of_book booking
  have sameAmount : resolution.amount = transaction.candidate.amount :=
    outcome.carries.amount
  refine ⟨?_, ⟨_, keeps_of_book booking, isShallow_iff_of_resolveRequest
    resolving⟩, ?_⟩
  · rw [← (Store.storedAmount_eq_ok_iff.mp posted.amount).2, sameAmount]
  · obtain ⟨halves, appended, _⟩ := posted.transactions
    have length : ready.transactions.length = store.transactions.length := by
      rw [length_replaced replacing, same]
    rw [appended, List.length_append, length, List.length_cons]
    omega

/-- A transaction whose row can be shown: the amount is not past all doubles,
and the applied rules that come with it are shallow. -/
structure Presentable (transaction : Payload.TransactionRequest) : Prop where
  amount : transaction.candidate.amount.toDouble.isFinite = true
  applied : ∀ entry ∈ transaction.appliedRules.getD [], entry.IsShallow

theorem showTransaction_isOk_iff_of_booked {mode : BookingMode}
    {transaction : Payload.TransactionRequest} {store after : Store}
    {row : TransactionRow}
    (success : booked mode transaction store = .ok (row, after)) :
    (∃ shown, showTransaction row = .ok shown) ↔ Presentable transaction := by
  obtain ⟨amount, ⟨applied, kept, shallow⟩, _⟩ := row_of_booked success
  have bounded : row.amount.IsBounded := by
    rw [amount]
    exact (Double.isBounded_toDouble _).unsignedZero
  rw [showTransaction_isOk_iff bounded kept, amount, isFinite_unsignedZero,
    shallow]
  constructor
  · rintro ⟨finite, given⟩
    exact ⟨finite, given⟩
  · intro presentable
    exact ⟨presentable.amount, presentable.applied⟩

/-- The requests that write: for a booking, for a new rule, and for drafted
rules. -/
inductive Request.Writes (request : Request) : Prop where
  | transaction (booking : request.IsBooking)
  | rule (path : Route.ofPath? request.path = some .rules)
      (method : request.method = "POST")
  | drafts (path : Route.ofPath? request.path = some .draftedRules)
      (method : request.method = "POST")

/-- The answer of an outcome, when there is one, tells of success. -/
def Outcome.Succeeds (outcome : Outcome) : Prop :=
  ∃ response, outcome.result = .ok response ∧ 200 ≤ response.status ∧
    response.status < 300

instance (outcome : Outcome) : Decidable outcome.Succeeds :=
  match answered : outcome.result with
  | .ok response =>
      decidable_of_iff (200 ≤ response.status ∧ response.status < 300) (by
        constructor
        · intro success
          exact ⟨response, answered, success⟩
        · rintro ⟨other, same, success⟩
          rw [answered] at same
          cases same
          exact success)
  | .error _ => .isFalse (by
      rintro ⟨response, same, _⟩
      rw [answered] at same
      cases same)

/-- A request books a transaction whose row cannot be shown: an amount past all
doubles, or with applied rules that are nested too deeply. -/
structure Request.BooksUnshown (request : Request) (store : Store) : Prop where
  booking : request.IsBooking
  booked : ∃ mode transaction row after,
    request.Asks store.clock.today mode transaction ∧
    Service.booked mode transaction store = .ok (row, after) ∧
      ¬ Presentable transaction

theorem succeeds_respond_iff {request : Request} {store : Store} :
    (respond request store).Succeeds ↔
      (handle request store).Succeeds ∧ request.isHalved = false := by
  have status : failureStatus = 400 := rfl
  simp only [Outcome.Succeeds, (sends_respond request store).result,
    sent_eq_ok_iff, status]
  constructor
  · rintro ⟨response, ⟨answered, failing⟩, success⟩
    refine ⟨⟨response, answered, success⟩, ?_⟩
    rw [← Bool.not_eq_true]
    intro halved
    have above := failing halved
    omega
  · rintro ⟨⟨response, answered, success⟩, whole⟩
    refine ⟨response, ⟨answered, ?_⟩, success⟩
    intro halved
    rw [whole] at halved
    cases halved

theorem succeeds_of_answer {outcome : Outcome} (status : Nat) (body : Json)
    (answered : outcome.result = .ok (.answer status body))
    (success : 200 ≤ status ∧ status < 300) :
    outcome.Succeeds :=
  ⟨.answer status body, answered, success⟩

/-- Handling leaves the store, or succeeds. -/
def KeepsOrSucceeds (store : Store) (outcome : Outcome) : Prop :=
  outcome.store = store ∨ outcome.Succeeds

theorem keepsOrSucceeds_withBody {body? : Option String} {store : Store}
    {handler : Json → Outcome}
    (handles : ∀ body, KeepsOrSucceeds store (handler body)) :
    KeepsOrSucceeds store (withBody body? store handler) := by
  unfold withBody
  split
  · exact handles _
  · exact .inl rfl
  · exact .inl rfl

theorem isShown_of_committed {news : List Store.NewRule} {store after : Store}
    {rows : List RuleRow}
    (success : committed (fun session => session.flush news) store =
      .ok (rows, after))
    (shown : ∀ new ∈ news, IsShown new.conditions ∧ IsShown new.actions) :
    ∀ row ∈ rows, IsShown row.conditions ∧ IsShown row.actions := by
  rw [committed_flush] at success
  intro row member
  obtain ⟨new, memberNew, fills⟩ := exists_mem_of_forall₂
    (Store.insertedRules_of_insertRules success).filled row member
  rw [fills.conditions, fills.actions]
  exact shown new memberNew

theorem keepsOrSucceeds_createRule (body : Json) (store : Store) :
    KeepsOrSucceeds store (createRule body store) := by
  unfold createRule
  split
  case h_1 => exact .inl rfl
  case h_2 => exact .inl rfl
  case h_3 request _ =>
    split
    case h_1 => exact .inl rfl
    case h_2 => exact .inl rfl
    case h_3 rows after success =>
      obtain ⟨shown, showing⟩ :=
        showRules_eq_ok (isShown_of_committed success (by
        intro new member
        rw [List.mem_singleton.mp member]
        exact isShown_newRule request))
      refine .inr (succeeds_of_answer 201 (shown.head?.getD .null) ?_
        (by decide))
      dsimp only
      rw [showing]
      rfl

theorem isShown_of_draftRules {priority : Int} {excluded : List String}
    {store : Store} {drafts : List RuleDraft}
    (success : draftRules priority excluded store = .ok drafts) :
    ∀ draft ∈ drafts, IsShown draft.conditions ∧ IsShown draft.actions := by
  obtain ⟨needy, rfl⟩ := exists_needy_of_draftRules success
  intro draft member
  obtain ⟨account, _, rfl⟩ := List.mem_map.mp member
  exact isShown_draft priority account

private theorem keepsOrSucceeds_storeDrafts {drafts : List RuleDraft}
    (store : Store)
    (shownDrafts : ∀ draft ∈ drafts, IsShown draft.conditions ∧
      IsShown draft.actions) :
    KeepsOrSucceeds store (storeDrafts drafts store) := by
  unfold storeDrafts
  split
  case h_1 =>
    exact .inr (succeeds_of_answer 200 (draftedBody nothingToDraft 0 (.arr []))
      rfl (by decide))
  case h_2 =>
    split
    case h_1 => exact .inl rfl
    case h_2 => exact .inl rfl
    case h_3 rows after success =>
      obtain ⟨shown, showing⟩ :=
        showRules_eq_ok (isShown_of_committed success (by
        intro new member
        obtain ⟨draft, memberDraft, rfl⟩ := List.mem_map.mp member
        exact shownDrafts draft memberDraft))
      have answered : showRules rows = .ok (.arr shown) := by
        rw [showRules, showing]
        rfl
      refine .inr (succeeds_of_answer 201
        (draftedBody ("Generated " ++ toString rows.length ++
        " account detection rules") rows.length (.arr shown)) ?_ (by decide))
      dsimp only
      rw [answered]
      rfl

private theorem keepsOrSucceeds_createDrafted (store : Store) :
    KeepsOrSucceeds store (createDrafted store) := by
  unfold createDrafted createDraftedUnder
  split
  case h_1 => exact .inl rfl
  case h_2 drafted =>
    exact keepsOrSucceeds_storeDrafts store (isShown_of_draftRules drafted)

private theorem keepsOrSucceeds_of_not_booksUnshown {request : Request}
    (booking : request.IsBooking) {store : Store}
    (shows : ¬ request.BooksUnshown store) :
    KeepsOrSucceeds store (handle request store) := by
  have handled := handled_handle booking store
  generalize handle request store = outcome at handled
  cases handled with
  | refused _ => exact .inl rfl
  | @asked mode transaction asks =>
      cases success : booked mode transaction store with
      | error refusal => exact .inl (store_bookingOutcome_error store refusal)
      | ok result =>
          obtain ⟨row, after⟩ := result
          have presentable : Presentable transaction := by
            by_contra unshown
            exact shows ⟨booking, mode, transaction, row, after, asks, success,
              unshown⟩
          -- The row is committed by now: what is left is that it can be shown.
          obtain ⟨shown, showing⟩ :=
            (showTransaction_isOk_iff_of_booked success).mpr presentable
          refine .inr (succeeds_of_answer 201 shown ?_ (by decide))
          dsimp only [bookingOutcome]
          rw [showing]
          rfl

/-- A booking whose row cannot be shown leaves the row, and fails. -/
theorem Request.BooksUnshown.fails {request : Request} {store : Store}
    (unshown : request.BooksUnshown store) :
    ¬ (respond request store).Succeeds ∧
    ¬ SameTables store (respond request store).store := by
  obtain ⟨booking, mode, transaction, row, after, asks, success, hidden⟩ :=
    unshown
  obtain ⟨_, _, longer⟩ := row_of_booked success
  have handled := handle_eq_of_asks booking asks
  rw [success] at handled
  constructor
  · rw [succeeds_respond_iff, handled]
    rintro ⟨⟨response, answered, _⟩, _⟩
    obtain ⟨shown, showing, _⟩ := bind_eq_ok_iff.mp answered
    exact hidden
      ((showTransaction_isOk_iff_of_booked success).mp ⟨shown, showing⟩)
  · intro same
    have rows : (respond request store).store.transactions =
        after.transactions := by
      rw [(sends_respond request store).tables.transactions, handled]
      rfl
    rw [← rows, same.transactions] at longer
    exact absurd longer (lt_irrefl _)

theorem sameTables_of_keepsOrSucceeds {request : Request} {store : Store}
    (whole : request.isHalved = false)
    (keeps : KeepsOrSucceeds store (handle request store))
    (failed : ¬ (respond request store).Succeeds) :
    SameTables store (respond request store).store := by
  rcases keeps with unchanged | success
  · rw [respond_eq_of_unchanged unchanged]
    exact ⟨rfl, rfl, rfl⟩
  · exact absurd (succeeds_respond_iff.mpr ⟨success, whole⟩) failed

/-- A request that writes and whose body has no half of a pair on its own leaves
the tables when it fails exactly when it does not book a row that cannot be
shown. -/
theorem keeps_of_failure_iff {request : Request} (writes : request.Writes)
    (whole : request.isHalved = false) (store : Store) :
    (¬ (respond request store).Succeeds →
      SameTables store (respond request store).store) ↔
      ¬ request.BooksUnshown store := by
  constructor
  · intro keeps unshown
    obtain ⟨failed, changed⟩ := unshown.fails
    exact changed (keeps failed)
  · intro shows
    apply sameTables_of_keepsOrSucceeds whole
    cases writes with
    | transaction booking =>
        exact keepsOrSucceeds_of_not_booksUnshown booking shows
    | rule path method =>
        have handled : handle request store =
            withBody request.body store fun body => createRule body store := by
          simp [handle, path, method]
        rw [handled]
        exact keepsOrSucceeds_withBody fun body =>
          keepsOrSucceeds_createRule body store
    | drafts path method =>
        have handled : handle request store = createDrafted store := by
          simp [handle, path, method]
        rw [handled]
        exact keepsOrSucceeds_createDrafted store

/-- A request for a rule that detects the first account. -/
def walletRule : Request where
  method := "POST"
  path := "/api/v1/automation-rules"
  body := some
    ("\x7b\"name\": \"Wallet\", \"rule_type\": \"account_detection\", " ++
    "\"conditions\": \x7b\x7d, \"actions\": \x7b\"set_account\": \"wallet\"\x7d\x7d")

/-- The store with the rule. -/
def ruled : Store :=
  (respond walletRule wallets).store

theorem keeps_of_failure_iff_ruled :
    walletRule.Writes ∧ walletRule.isHalved = false ∧ ruled.rules ≠ [] ∧
      ¬ walletRule.BooksUnshown ruled ∧ ¬ (respond walletRule ruled).Succeeds ∧
      SameTables ruled (respond walletRule ruled).store := by
  have path : Route.ofPath? walletRule.path = some .rules := by decide +kernel
  have writes : walletRule.Writes := .rule path rfl
  have stored : ruled.rules.isEmpty = false := by decide +kernel
  have failed : ¬ (respond walletRule ruled).Succeeds := by decide +kernel
  have whole : walletRule.isHalved = false := by decide +kernel
  have shows : ¬ walletRule.BooksUnshown ruled := by
    intro unshown
    have booking := unshown.booking.path
    rw [path] at booking
    cases booking
  exact ⟨writes, whole, List.isEmpty_eq_false_iff.mp stored, shows, failed,
    (keeps_of_failure_iff writes whole ruled).mpr shows failed⟩

/-- A request that books more than any double. -/
def fortune : Request where
  method := "POST"
  path := "/api/v1/transactions"
  body := some ("\x7b\"description\": \"Fortune\", \"amount\": \"1E+400\", " ++
    "\"account_id\": \"wallet\"\x7d")

/-- The booking of a fortune fails and leaves its row. -/
theorem not_keeps_fortune :
    fortune.Writes ∧ ¬ (respond fortune wallets).Succeeds ∧
      (respond fortune wallets).store.transactions.map TransactionRow.amount =
        [.infinite false] ∧
      ¬ SameTables wallets (respond fortune wallets).store := by
  have booking : fortune.IsBooking := ⟨by decide +kernel, rfl⟩
  have failed : ¬ (respond fortune wallets).Succeeds := by decide +kernel
  have stored : (respond fortune wallets).store.transactions.map
      TransactionRow.amount =
      [.infinite false] := by
    decide +kernel
  refine ⟨.transaction booking, failed, stored, ?_⟩
  intro same
  rw [same.transactions] at stored
  cases stored

end Service

end LedgerRules
