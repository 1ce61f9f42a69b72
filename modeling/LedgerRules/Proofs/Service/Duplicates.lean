import LedgerRules.Proofs.Resolution.Again
import LedgerRules.Proofs.Service.Handling
import LedgerRules.Proofs.Store.Duplicates

/-!
# Guarded bookings

Bookings that are neither forced nor replace anything are looked up first.  As
long as all bookings of a store are of this kind, no two of its transactions
have the same date, amount and account, nor the same text from the same source.
A booking that is requested once more is turned down, and nothing changes.
-/

namespace LedgerRules

namespace Service

open Resolution

/-- Two resolutions that share the same rows. -/
structure SameShares (resolution other : Resolution) : Prop where
  amount : other.amount = resolution.amount
  source : other.source = resolution.source
  rawText : other.rawText = resolution.rawText
  accountId : other.accountId = resolution.accountId
  transactionDate : other.transactionDate = resolution.transactionDate

theorem SameShares.sharesText_eq {resolution other : Resolution}
    (same : SameShares resolution other) :
    Store.sharesText other = Store.sharesText resolution := by
  funext row
  simp only [Store.sharesText, same.rawText, same.source]

theorem SameShares.sharesKey_eq {resolution other : Resolution}
    (same : SameShares resolution other) :
    Store.sharesKey other = Store.sharesKey resolution := by
  funext row
  simp only [Store.sharesKey, same.transactionDate, same.amount, same.accountId]

theorem activeRules_eq (store : Store) :
    activeRules store =
      (RuleSession.filtered none (some true) store.rules).map
        RuleRow.stored := by
  have unedited : (RuleSession.start store).seen = id := rfl
  rw [activeRules, RuleSession.active, unedited, List.map_id]
  rfl

theorem activeRules_congr {store other : Store}
    (same : Store.SameSurroundings store other) :
    activeRules other = activeRules store := by
  rw [activeRules_eq, activeRules_eq, same.rules]

theorem existingAccountIds_eq {store other : Store}
    (same : Store.SameSurroundings store other) :
    other.existingAccountIds = store.existingAccountIds := by
  rw [Store.existingAccountIds, Store.existingAccountIds, same.accounts]

theorem resolveWith_again {rules : List StoredRule} {candidate : Candidate}
    {store resolved other : Store} {resolution : Resolution}
    (success : resolveWith rules candidate store = .ok (resolution, resolved))
    (same : Store.SameSurroundings store other) :
    ∃ again ids, resolveWith rules candidate other =
        .ok (again, { other with transferIds := ids }) ∧
        SameShares resolution again := by
  obtain ⟨_, resolving, _⟩ := resolveWith_eq_ok_iff.mp success
  obtain ⟨again, ids, resolvingAgain, outcome⟩ :=
    again_of_resolve resolving candidate.transactionDate other.transferIds
  have dated : resolution.transactionDate = candidate.transactionDate :=
    (resolved_of_resolve resolving).carries.transactionDate
  refine ⟨again, ids, resolveWith_eq_ok_iff.mpr ⟨ids, ?_, rfl⟩, ?_⟩
  · rw [existingAccountIds_eq same]
    exact resolvingAgain
  · cases outcome with
    | same => exact ⟨rfl, rfl, rfl, rfl, dated.symm⟩
    | relinked => exact ⟨rfl, rfl, rfl, rfl, dated.symm⟩

theorem resolveRequest_again {transaction : Payload.TransactionRequest}
    {store resolved other : Store} {resolution : Resolution}
    (success : resolveRequest transaction store = .ok (resolution, resolved))
    (same : Store.SameSurroundings store other) :
    ∃ again ids, resolveRequest transaction other =
        .ok (again, { other with transferIds := ids }) ∧
        SameShares resolution again := by
  unfold resolveRequest at success ⊢
  dsimp only at success ⊢
  split at success
  case h_1 =>
    unfold resolveStored at success ⊢
    rw [activeRules_congr same]
    exact resolveWith_again success same
  case h_2 trail _ =>
    obtain ⟨⟨found, last⟩, resolving, success⟩ := bind_eq_ok_iff.mp success
    cases success
    obtain ⟨again, ids, resolvingAgain, shares⟩ :=
      resolveWith_again resolving same
    refine ⟨_, ids, bind_eq_ok_iff.mpr ⟨_, resolvingAgain, rfl⟩, ?_⟩
    exact ⟨shares.amount, shares.source, shares.rawText, shares.accountId,
      shares.transactionDate⟩

/-- A booking that is looked up first, and that replaces nothing. -/
structure BookingMode.IsGuarded (mode : BookingMode) : Prop where
  unforced : mode.force = false
  additional : nonEmpty? mode.replace = none

instance (mode : BookingMode) : Decidable mode.IsGuarded :=
  decidable_of_iff (mode.force = false ∧ nonEmpty? mode.replace = none)
    ⟨fun both => ⟨both.1, both.2⟩, fun guarded => ⟨guarded.1, guarded.2⟩⟩

theorem BookingMode.IsGuarded.conflicting_eq {mode : BookingMode}
    (guarded : mode.IsGuarded) (resolution : Resolution) (store : Store) :
    conflicting mode resolution store =
      (store.findDuplicate resolution).map fun found? => found?.map (·.1) := by
  simp only [conflicting, guarded.unforced, guarded.additional,
    Option.isSome_none, Bool.or_self, Bool.false_eq_true, if_false]
  rfl

/-- What a guarded booking that succeeds does: nothing shares text or key with
its resolution, which is posted. -/
structure GuardedlyBooked (transaction : Payload.TransactionRequest)
    (store : Store) (resolution : Resolution) (row : TransactionRow)
    (after : Store) : Prop where
  resolving : ∃ resolved,
    resolveRequest transaction store = .ok (resolution, resolved) ∧
    resolved = { store with transferIds := resolved.transferIds } ∧
    hasAccount resolution resolved = true
  carries : Carries (candidateOf transaction.candidate) resolution
  free : ∀ other ∈ store.liveTransactions,
    Store.sharesText resolution other = false ∧
    Store.sharesKey resolution other = false
  posted : Store.Posted resolution store row after
  surroundings : Store.SameSurroundings store after

theorem guardedlyBooked_of_booked {mode : BookingMode}
    (guarded : mode.IsGuarded) {transaction : Payload.TransactionRequest}
    {store after : Store} {row : TransactionRow}
    (success : booked mode transaction store = .ok (row, after)) :
    ∃ resolution, GuardedlyBooked transaction store resolution row after := by
  obtain ⟨resolution, resolved, ready, resolving, account, unmatched, replacing,
    booking⟩ :=
    booked_eq_ok success
  have kept : resolved = ready := by
    simpa [replaced, guarded.additional] using replacing
  subst kept
  obtain ⟨outcome, same⟩ := resolved_of_resolveRequest resolving
  have posted := Store.posted_of_book booking
  have quiet := Store.isSignalling_of_stored posted.amount
  have nothing : resolved.findDuplicate resolution = .ok none := by
    rw [guarded.conflicting_eq] at unmatched
    cases found : resolved.findDuplicate resolution with
    | error fault =>
        rw [found] at unmatched
        cases unmatched
    | ok found? =>
        rw [found] at unmatched
        cases found? with
        | none => rfl
        | some found => cases unmatched
  have free := (Store.findDuplicate_eq_none_iff quiet).mp nothing
  have surroundings := Store.sameSurroundings_of_book booking
  rw [same] at free posted surroundings
  exact ⟨resolution, {
    resolving := ⟨resolved, resolving, same, account⟩
    carries := outcome.carries
    free := free
    posted := ⟨posted.transactions, posted.accountId, posted.transactionDate,
      posted.rawText, posted.source, posted.amount, posted.live⟩
    surroundings :=
      ⟨surroundings.accounts, surroundings.rules, surroundings.today⟩ }⟩

/-- Once it is posted, a resolution that shares the same rows finds the row. -/
theorem GuardedlyBooked.findDuplicate_eq
    {transaction : Payload.TransactionRequest} {store after : Store}
    {resolution again : Resolution} {row : TransactionRow}
    (done : GuardedlyBooked transaction store resolution row after)
    (same : SameShares resolution again) {date : Date}
    (dated : resolution.transactionDate = some date) {other : Store}
    (rows : other.transactions = after.transactions) :
    ∃ reason, other.findDuplicate again = .ok (some (row, reason)) := by
  obtain ⟨halves, appended, textless⟩ := done.posted.transactions
  have live : other.liveTransactions =
      store.liveTransactions ++ row :: halves.filter fun half =>
        !half.isDeleted := by
    simp [Store.liveTransactions, rows, appended, done.posted.live]
  have quiet : again.amount.isSignalling = false := by
    rw [same.amount]
    exact Store.isSignalling_of_stored done.posted.amount
  -- Another half stands behind the row and has no text, so the row is found
  -- first.
  refine Store.findDuplicate_eq_some quiet live ?_ ?_ ?_
  · rw [same.sharesText_eq, same.sharesKey_eq]
    exact done.free
  · intro half member
    have noText := textless half (List.mem_of_mem_filter member)
    rw [Bool.eq_false_iff]
    intro shares
    obtain ⟨rawText, _, _, _, sameText, _⟩ := Store.sharesText_iff.mp shares
    rw [noText] at sameText
    cases sameText
  · rw [same.sharesKey_eq]
    exact done.posted.sharesKey dated

/-- A guarded booking that is repeated in the same surroundings is turned down
because of the row that the first one posted. -/
theorem GuardedlyBooked.booked_again {transaction : Payload.TransactionRequest}
    {store after : Store} {resolution : Resolution} {row : TransactionRow}
    (done : GuardedlyBooked transaction store resolution row after)
    {date : Date} (dated : transaction.candidate.transactionDate = some date)
    {mode : BookingMode} (guarded : mode.IsGuarded) :
    booked mode transaction after = .error (.duplicate row) := by
  -- Resolved again, the request has the same key, though perhaps another
  -- transfer.
  obtain ⟨resolved, resolving, unchanged, account⟩ := done.resolving
  obtain ⟨again, ids, resolvingAgain, same⟩ :=
    resolveRequest_again resolving done.surroundings
  have sameDate : resolution.transactionDate = some date :=
    done.carries.transactionDate.trans dated
  obtain ⟨reason, found⟩ := done.findDuplicate_eq same sameDate
    (rfl : Store.transactions { after with transferIds := ids } =
      after.transactions)
  have accountAgain : hasAccount again { after with transferIds := ids } =
    true := by
    rw [unchanged] at account
    rw [hasAccount, same.accountId]
    change (resolution.accountId.any after.existingAccountIds.contains) = true
    rw [existingAccountIds_eq done.surroundings]
    exact account
  rw [booked_eq, resolvingAgain]
  simp only [bookResolved, accountAgain, if_true, guarded.conflicting_eq, found]
  rfl

/-- A transaction that a request posted: its row, and its amount as it was
requested. -/
structure Posting where
  row : TransactionRow
  amount : Decimal

/-- Two transactions that do not repeat each other: they differ in their date,
their amount or their account, and they do not share a text from the same
source. -/
structure Posting.Apart (left right : Posting) : Prop where
  key : ∀ number, left.amount.value? = some number →
    right.amount.value? = some number →
    left.row.transactionDate = right.row.transactionDate →
      left.row.accountId ≠ right.row.accountId
  text : ∀ rawText source, rawText ≠ "" → source ≠ "" →
    left.row.rawText = some rawText → right.row.rawText = some rawText →
      left.row.source = source → right.row.source ≠ source

/-- A posting stands in a store: its row is live, and has the amount of the
posting, which is a number. -/
structure Posting.StandsIn (store : Store) (posting : Posting) : Prop where
  live : posting.row ∈ store.liveTransactions
  stored : Store.storedAmount posting.amount = .ok posting.row.amount
  finite : posting.amount.isFinite = true

theorem Posting.StandsIn.congr {store other : Store} {posting : Posting}
    (stands : posting.StandsIn store)
    (same : other.transactions = store.transactions) :
    posting.StandsIn other := by
  obtain ⟨live, stored, finite⟩ := stands
  refine ⟨?_, stored, finite⟩
  rw [Store.liveTransactions, same]
  exact live

theorem Posting.StandsIn.value {store : Store} {posting : Posting}
    (stands : posting.StandsIn store) :
    ∃ number, posting.amount.value? = some number := by
  have finite := stands.finite
  cases amount : posting.amount with
  | finite negative coefficient exponent => exact ⟨_, rfl⟩
  | infinite negative =>
      rw [amount] at finite
      cases finite
  | nan negative signalling payload =>
      rw [amount] at finite
      cases finite

/-- A guarded booking repeats nothing that stands in the store. -/
theorem GuardedlyBooked.apart {transaction : Payload.TransactionRequest}
    {store after : Store} {resolution : Resolution} {row : TransactionRow}
    (done : GuardedlyBooked transaction store resolution row after)
    {date : Date} (dated : transaction.candidate.transactionDate = some date)
    {posting : Posting} (stands : posting.StandsIn store) :
    posting.Apart ⟨row, transaction.candidate.amount⟩ := by
  obtain ⟨noText, noKey⟩ := done.free posting.row stands.live
  have sameAmount : resolution.amount = transaction.candidate.amount :=
    done.carries.amount
  have sameDate : resolution.transactionDate = some date :=
    done.carries.transactionDate.trans dated
  constructor
  · intro number value newValue sameDay sameAccount
    apply Bool.eq_false_iff.mp noKey
    refine Store.sharesKey_iff.mpr ⟨?_, ?_, ?_⟩
    · rw [sameDay, done.posted.transactionDate, Store.bookingDate, sameDate]
      rfl
    · rw [sameAmount]
      exact Store.sameNumber_of_stored stands.stored value newValue
    · rw [done.posted.accountId, sameAccount]
  · intro rawText source someText someSource text newText sameSource newSource
    apply Bool.eq_false_iff.mp noText
    refine Store.sharesText_iff.mpr ⟨rawText, source, ?_, ?_, text, sameSource⟩
    · rw [← done.posted.rawText]
      exact nonEmpty?_eq_some_iff.mpr ⟨newText, someText⟩
    · rw [← done.posted.source]
      exact nonEmpty?_eq_some_iff.mpr ⟨congrArg some newSource, someSource⟩

theorem GuardedlyBooked.standsIn {transaction : Payload.TransactionRequest}
    {store after : Store} {resolution : Resolution} {row : TransactionRow}
    (done : GuardedlyBooked transaction store resolution row after)
    (finite : transaction.candidate.amount.isFinite = true) {other : Store}
    (rows : other.transactions = after.transactions) :
    Posting.StandsIn other ⟨row, transaction.candidate.amount⟩ ∧
      ∀ posting : Posting, posting.StandsIn store → posting.StandsIn other := by
  obtain ⟨halves, appended, _⟩ := done.posted.transactions
  have sameAmount : resolution.amount = transaction.candidate.amount :=
    done.carries.amount
  constructor
  · refine ⟨?_, ?_, finite⟩
    · simp [Store.liveTransactions, rows, appended, done.posted.live]
    · rw [← sameAmount]
      exact done.posted.amount
  · intro posting stands
    refine ⟨?_, stands.stored, stands.finite⟩
    have live := stands.live
    simp only [Store.liveTransactions, rows, appended, List.filter_append,
      List.mem_append]
    exact .inl live

/-- A request for a booking that is neither forced nor replaces anything. -/
def Request.IsGuarded (request : Request) : Prop :=
  ∀ mode, checkBookingMode request.query = .accepted mode → mode.IsGuarded

instance (request : Request) : Decidable request.IsGuarded :=
  match checked : checkBookingMode request.query with
  | .accepted mode =>
      decidable_of_iff mode.IsGuarded (by
        constructor
        · intro guarded other same
          rw [checked] at same
          cases same
          exact guarded
        · intro guarded
          exact guarded mode checked)
  | .rejected _ | .overflowed => .isTrue (by
      intro mode same
      rw [checked] at same
      cases same)

/-- Stores that grow out of one without transactions by guarded requests for
bookings, with the transactions that these posted, in order.  In between
everything but the transactions may change. -/
inductive Ledger : Store → List Posting → Prop where
  | start {store : Store} (empty : store.transactions = []) : Ledger store []
  | posted {store after : Store} {postings : List Posting} {request : Request}
      {mode : BookingMode} {transaction : Payload.TransactionRequest}
        {row : TransactionRow}
      (ledger : Ledger store postings) (booking : request.IsBooking)
      (guarded : request.IsGuarded)
        (asks : request.Asks store.clock.today mode transaction)
      (success : booked mode transaction store = .ok (row, after)) :
      Ledger (respond request store).store
        (postings ++ [⟨row, transaction.candidate.amount⟩])
  | refused {store : Store} {postings : List Posting} {request : Request}
      (ledger : Ledger store postings) (booking : request.IsBooking)
      (guarded : request.IsGuarded)
      (never : ∀ mode transaction,
        request.Asks store.clock.today mode transaction →
        ∀ row after, booked mode transaction store ≠ .ok (row, after)) :
      Ledger (respond request store).store postings
  | change {store other : Store} {postings : List Posting}
        (ledger : Ledger store postings)
      (same : other.transactions = store.transactions) : Ledger other postings

/-- A ledger can be carried on with every guarded request for a booking. -/
theorem Ledger.continues {store : Store} {postings : List Posting}
    (ledger : Ledger store postings) {request : Request}
    (booking : request.IsBooking) (guarded : request.IsGuarded) :
    ∃ more, Ledger (respond request store).store (postings ++ more) := by
  cases answered_respond booking store with
  | booked asks success =>
      exact ⟨_, .posted ledger booking guarded asks success⟩
  | refused never =>
      refine ⟨[], ?_⟩
      rw [List.append_nil]
      exact .refused ledger booking guarded never

theorem Request.Asks.dated {request : Request} {today : Date}
    {mode : BookingMode} {transaction : Payload.TransactionRequest}
    (asks : request.Asks today mode transaction) :
    transaction.candidate.amount.isFinite = true ∧
      ∃ date, transaction.candidate.transactionDate = some date := by
  obtain ⟨_, body, _, accepted⟩ := asks
  obtain ⟨fields, _, reads⟩ :=
    Payload.TransactionRequest.checkBody_eq_accepted_iff.mp accepted
  refine ⟨reads.isFinite_amount, ?_⟩
  obtain ⟨candidate, _, same⟩ := reads.candidate
  rw [← same]
  exact ⟨_, rfl⟩

theorem transactions_respond_of_booked {request : Request} {store after : Store}
    {mode : BookingMode} {transaction : Payload.TransactionRequest}
    {row : TransactionRow} (booking : request.IsBooking)
    (asks : request.Asks store.clock.today mode transaction)
    (success : booked mode transaction store = .ok (row, after)) :
    (respond request store).store.transactions = after.transactions := by
  rw [(sends_respond request store).tables.transactions,
    handle_eq_of_asks booking asks, success]
  rfl

theorem Ledger.standing {store : Store} {postings : List Posting}
    (ledger : Ledger store postings) :
    (∀ posting ∈ postings, posting.StandsIn store) ∧
    postings.Pairwise Posting.Apart := by
  induction ledger with
  | start empty =>
      refine ⟨?_, .nil⟩
      intro posting member
      cases member
  | posted _ booking guarded asks success induction =>
      obtain ⟨stands, apart⟩ := induction
      obtain ⟨finite, date, dated⟩ := asks.dated
      obtain ⟨resolution, done⟩ := guardedlyBooked_of_booked
        (guarded _ asks.mode) success
      obtain ⟨newStands, stillStands⟩ :=
        done.standsIn finite
          (transactions_respond_of_booked booking asks success)
      constructor
      · intro posting member
        rcases List.mem_append.mp member with old | new
        · exact stillStands posting (stands posting old)
        · rw [List.mem_singleton.mp new]
          exact newStands
      · rw [List.pairwise_append]
        refine ⟨apart, List.pairwise_singleton _ _, ?_⟩
        intro posting member new memberNew
        rw [List.mem_singleton.mp memberNew]
        exact done.apart dated (stands posting member)
  | @refused store _ request _ booking _ never induction =>
      obtain ⟨stands, apart⟩ := induction
      have same : (respond request store).store.transactions =
          store.transactions := by
        cases answered_respond booking store with
        | booked asks success => exact (never _ _ asks _ _ success).elim
        | refused _ left => exact left
      exact ⟨fun posting member => (stands posting member).congr same, apart⟩
  | change _ same induction =>
      obtain ⟨stands, apart⟩ := induction
      exact ⟨fun posting member => (stands posting member).congr same, apart⟩

/-- A request that is answered with a created transaction was booked, and its
row can be shown. -/
theorem booked_of_created {request : Request} (booking : request.IsBooking)
    {store : Store} {body : Json}
    (created : (respond request store).result = .ok (.answer 201 body)) :
    ∃ mode transaction row after shown,
      request.Asks store.clock.today mode transaction ∧
        booked mode transaction store = .ok (row, after) ∧
        showTransaction row = .ok shown ∧
        (respond request store).store = after := by
  have passed := respond_eq_of_success created (by decide : 201 < 400)
  have handled := handled_handle booking store
  rw [passed] at created ⊢
  generalize handle request store = outcome at created handled
  cases handled with
  | refused status => exact absurd (status _ created) (by decide : ¬ 400 ≤ 201)
  | @asked mode transaction asks =>
      cases success : booked mode transaction store with
      | error refusal =>
          rw [success] at created
          exact absurd (failureStatus_le_of_refusal created)
            (by decide : ¬ 400 ≤ 201)
      | ok result =>
          obtain ⟨row, after⟩ := result
          rw [success] at created
          obtain ⟨shown, showing, _⟩ := bind_eq_ok_iff.mp created
          exact ⟨mode, transaction, row, after, shown, asks, success, showing,
            rfl⟩

private theorem respond_again {request : Request} (booking : request.IsBooking)
    (guarded : request.IsGuarded) {store : Store} {body : Json}
    (created : (respond request store).result = .ok (.answer 201 body)) :
    ∃ shown, respond request (respond request store).store =
      ⟨(respond request store).store, .ok (.answer 409 shown)⟩ := by
  obtain ⟨mode, transaction, row, after, shown, asks, success, showing, left⟩ :=
    booked_of_created booking created
  obtain ⟨_, date, dated⟩ := asks.dated
  obtain ⟨resolution, done⟩ := guardedlyBooked_of_booked
    (guarded mode asks.mode) success
  have asksAgain : request.Asks after.clock.today mode transaction := by
    rw [done.surroundings.today]
    exact asks
  have handled : handle request after =
      ⟨after, .ok (.answer 409
        (.obj [("duplicate", .bool true), ("match", shown)]))⟩ := by
    rw [handle_eq_of_asks booking asksAgain, done.booked_again dated
      (guarded mode asks.mode)]
    simp only [bookingOutcome, duplicateBody, showing]
    rfl
  rw [left]
  refine ⟨.obj [("duplicate", .bool true), ("match", shown)], ?_⟩
  have sends : sent request (.ok (.answer 409
      (.obj [("duplicate", .bool true), ("match", shown)]))) =
      .ok (.answer 409 (.obj [("duplicate", .bool true), ("match", shown)])) :=
    sent_eq_ok_iff.mpr ⟨rfl, fun _ => (by decide : 400 ≤ 409)⟩
  rw [respond_eq_of_unchanged (by rw [handled]), handled, sends]

/-- In a ledger all postings are live, no two of them repeat each other, and a
request whose transaction was created is turned down as a duplicate when it is
repeated. -/
theorem Ledger.guards {store : Store} {postings : List Posting}
    (ledger : Ledger store postings) :
    (∀ posting ∈ postings, posting.row ∈ store.liveTransactions ∧
        ∃ number, posting.amount.value? = some number) ∧
      postings.Pairwise Posting.Apart ∧
      ∀ request : Request, request.IsBooking → request.IsGuarded →
        ∀ body, (respond request store).result = .ok (.answer 201 body) →
          ∃ shown, respond request (respond request store).store =
            ⟨(respond request store).store, .ok (.answer 409 shown)⟩ := by
  obtain ⟨stands, apart⟩ := ledger.standing
  refine ⟨?_, apart, ?_⟩
  · intro posting member
    exact ⟨(stands posting member).live, (stands posting member).value⟩
  · intro request booking guarded body created
    exact respond_again booking guarded created

/-- A request that books a lunch on an account. -/
def lunchOn (account : String) : Request where
  method := "POST"
  path := "/api/v1/transactions"
  body := some ("\x7b\"description\": \"Lunch\", \"amount\": \"5\", " ++
    "\"account_id\": \"" ++ account ++ "\"\x7d")

def Outcome.isCreated (outcome : Outcome) : Bool :=
  match outcome.result with
  | .ok (.answer 201 _) => true
  | _ => false

theorem Outcome.result_of_isCreated {outcome : Outcome}
    (created : outcome.isCreated = true) :
    ∃ body, outcome.result = .ok (.answer 201 body) := by
  unfold isCreated at created
  split at created
  case h_1 body answered => exact ⟨body, answered⟩
  case h_2 => cases created

theorem Ledger.posted_of_created {store : Store} {postings : List Posting}
    (ledger : Ledger store postings) {request : Request}
    (booking : request.IsBooking) (guarded : request.IsGuarded)
    (created : (respond request store).isCreated = true) :
    ∃ posting, Ledger (respond request store).store
      (postings ++ [posting]) := by
  obtain ⟨body, answered⟩ := Outcome.result_of_isCreated created
  obtain ⟨_, _, _, _, _, asks, success, _⟩ := booked_of_created booking answered
  exact ⟨_, .posted ledger booking guarded asks success⟩

/-- The store after a lunch on the first account. -/
def lunched : Store :=
  (respond (lunchOn "wallet") wallets).store

theorem Ledger.guards_lunched :
    ∃ first second : Posting, Ledger lunched [first] ∧
      Ledger (respond (lunchOn "savings") lunched).store [first, second] ∧
      first.Apart second ∧
      (respond (lunchOn "savings") lunched).isCreated = true ∧
      ∃ shown, respond (lunchOn "savings")
        (respond (lunchOn "savings") lunched).store =
        ⟨(respond (lunchOn "savings") lunched).store,
          .ok (.answer 409 shown)⟩ := by
  have booking : (lunchOn "savings").IsBooking := ⟨by decide +kernel, rfl⟩
  have guarded : (lunchOn "savings").IsGuarded := by decide +kernel
  have created : (respond (lunchOn "savings") lunched).isCreated = true := by
    decide +kernel
  have walleted : (lunchOn "wallet").IsBooking := ⟨by decide +kernel, rfl⟩
  obtain ⟨first, ledger⟩ := Ledger.posted_of_created
    (.start rfl : Ledger wallets []) walleted
    (by decide +kernel) (by decide +kernel)
  obtain ⟨second, both⟩ := ledger.posted_of_created booking guarded created
  obtain ⟨body, answered⟩ := Outcome.result_of_isCreated created
  refine ⟨first, second, ledger, both, ?_, created, ?_⟩
  · exact (List.pairwise_cons.mp both.guards.2.1).1 second
      (List.mem_singleton.mpr rfl)
  · exact ledger.guards.2.2 (lunchOn "savings") booking guarded body answered

end Service

end LedgerRules
