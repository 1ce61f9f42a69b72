import LedgerRules.Proofs.Payload.Accepted
import LedgerRules.Proofs.Store.Booking
import LedgerRules.Service.Router

/-!
# What a request for a booking does to the store

A booking resolves the request, deletes what it replaces and books the
resolution.  When any of these fails the store stays as it is.
-/

namespace LedgerRules

namespace Service

open Resolution

theorem resolveWith_eq_ok_iff {rules : List StoredRule} {candidate : Candidate}
    {store after : Store} {resolution : Resolution} :
    resolveWith rules candidate store = .ok (resolution, after) ↔
      ∃ ids, resolve (some store.existingAccountIds) store.transferIds rules
        candidate =
        .ok (resolution, ids) ∧ { store with transferIds := ids } = after := by
  unfold resolveWith
  cases resolve (some store.existingAccountIds) store.transferIds rules
    candidate with
  | error fault => simp
  | ok outcome =>
      obtain ⟨found, ids⟩ := outcome
      constructor
      · rintro ⟨⟩
        exact ⟨ids, rfl, rfl⟩
      · rintro ⟨_, ⟨⟩, rfl⟩
        rfl

theorem resolved_withTrail {known : KnownAccounts} {ids after : IdSource}
    {candidate : Candidate} {resolution : Resolution}
    (resolved : Resolved known ids candidate resolution after)
    (appliedRules : List AppliedRule) (isReconciled : Bool) :
    Resolved known ids candidate { resolution with appliedRules, isReconciled }
      after := by
  cases resolved with
  | single carries transferId request settled =>
      obtain ⟨description, amount, source, rawText, date, time⟩ := carries
      exact .single ⟨description, amount, source, rawText, date, time⟩
        transferId request settled
  | paired carries unlinked destined allowed apart type transferId request =>
      obtain ⟨description, amount, source, rawText, date, time⟩ := carries
      exact .paired ⟨description, amount, source, rawText, date, time⟩ unlinked
        destined allowed
        apart type transferId request

theorem resolved_of_resolveWith {rules : List StoredRule}
    {candidate : Candidate} {store after : Store} {resolution : Resolution}
    (success : resolveWith rules candidate store = .ok (resolution, after)) :
    Resolved (some store.existingAccountIds) store.transferIds candidate
      resolution
        after.transferIds ∧
      after = { store with transferIds := after.transferIds } := by
  obtain ⟨ids, outcome, rfl⟩ := resolveWith_eq_ok_iff.mp success
  exact ⟨resolved_of_resolve outcome, rfl⟩

theorem resolved_of_resolveRequest {request : Payload.TransactionRequest}
    {store after : Store} {resolution : Resolution}
    (success : resolveRequest request store = .ok (resolution, after)) :
    Resolved (some store.existingAccountIds) store.transferIds
      (candidateOf request.candidate)
        resolution after.transferIds ∧
      after = { store with transferIds := after.transferIds } := by
  unfold resolveRequest at success
  dsimp only at success
  split at success
  case h_1 => exact resolved_of_resolveWith success
  case h_2 =>
    obtain ⟨⟨found, last⟩, resolved, success⟩ := bind_eq_ok_iff.mp success
    cases success
    obtain ⟨outcome, same⟩ := resolved_of_resolveWith resolved
    exact ⟨resolved_withTrail outcome _ _, same⟩

/-- A booking once its request is resolved. -/
def bookResolved (mode : BookingMode) (resolution : Resolution)
    (store : Store) :
    Except Refusal (TransactionRow × Store) :=
  if hasAccount resolution store then
    match conflicting mode resolution store with
    | .error fault => .error (.fault fault)
    | .ok (some row) => .error (.duplicate row)
    | .ok none =>
        match replaced mode store with
        | .error fault => .error (.fault fault)
        | .ok ready =>
            (ready.book resolution (if mode.force then
              some "confirmed" else none)).mapError .fault
  else .error .noValidAccount

theorem booked_eq (mode : BookingMode) (request : Payload.TransactionRequest)
    (store : Store) :
    booked mode request store =
      match resolveRequest request store with
      | .error fault => .error (.fault fault)
      | .ok (resolution, resolved) =>
        bookResolved mode resolution resolved := by
  unfold booked bookResolved
  cases resolveRequest request store with
  | error fault => rfl
  | ok outcome =>
      obtain ⟨resolution, resolved⟩ := outcome
      cases account : hasAccount resolution resolved with
      | false =>
          simp [Except.mapError, account, bind, Except.bind, throw, throwThe,
            MonadExceptOf.throw]
      | true =>
          cases conflict : conflicting mode resolution resolved with
          | error fault =>
              simp [Except.mapError, account, conflict, bind, Except.bind]
          | ok match? =>
              cases match? with
              | some row =>
                  simp [Except.mapError, account, conflict, bind, Except.bind,
                    throw, throwThe, MonadExceptOf.throw]
              | none =>
                  cases ready : replaced mode resolved <;>
                    simp [Except.mapError, account, conflict, ready, bind,
                      Except.bind]

/-- The steps of a successful booking. -/
theorem booked_eq_ok {mode : BookingMode} {request : Payload.TransactionRequest}
    {store after : Store} {row : TransactionRow}
    (success : booked mode request store = .ok (row, after)) :
    ∃ resolution resolved ready,
      resolveRequest request store = .ok (resolution, resolved) ∧
        hasAccount resolution resolved = true ∧
        conflicting mode resolution resolved = .ok none ∧
        replaced mode resolved = .ok ready ∧
        ready.book resolution (if mode.force then some "confirmed" else none) =
          .ok (row, after) := by
  rw [booked_eq] at success
  cases resolving : resolveRequest request store with
  | error fault => simp [resolving] at success
  | ok outcome =>
      obtain ⟨resolution, resolved⟩ := outcome
      simp only [resolving] at success
      unfold bookResolved at success
      split at success
      case isFalse => cases success
      case isTrue account =>
        split at success
        case h_1 => cases success
        case h_2 => cases success
        case h_3 free =>
          split at success
          case h_1 => cases success
          case h_2 ready replacing =>
            exact ⟨resolution, resolved, ready, rfl, account, free, replacing,
              mapError_eq_ok_iff.mp success⟩

/-- Replacing deletes one row with the rest of its transfer, or does nothing. -/
theorem replaced_eq_ok {mode : BookingMode} {store ready : Store}
    (success : replaced mode store = .ok ready) :
    ready = store ∨ ∃ row ∈ store.transactions,
      ready = { store with
        transactions := store.transactions.map (Store.afterDeleting row) } := by
  unfold replaced at success
  split at success
  case h_1 id _ =>
    obtain ⟨row, member, _, _, deleted⟩ := Store.deleteTransaction_eq_ok success
    exact .inr ⟨row, member, deleted⟩
  case h_2 =>
    cases success
    exact .inl rfl

theorem length_replaced {mode : BookingMode} {store ready : Store}
    (success : replaced mode store = .ok ready) :
    ready.transactions.length = store.transactions.length := by
  rcases replaced_eq_ok success with rfl | ⟨_, _, rfl⟩
  · rfl
  · exact List.length_map _

theorem unused_replaced {mode : BookingMode} {store ready : Store}
    {transferId : String} (success : replaced mode store = .ok ready)
    (unused : Store.Unused transferId store.transactions) :
    Store.Unused transferId ready.transactions := by
  rcases replaced_eq_ok success with rfl | ⟨row, _, rfl⟩
  · exact unused
  · exact unused.map_afterDeleting row

/-- The next identifier of a transfer is on no row. -/
def FreshTransfer (store : Store) : Prop :=
  Store.Unused store.transferIds.next.1 store.transactions

instance (store : Store) : Decidable (FreshTransfer store) :=
  inferInstanceAs (Decidable (Store.Unused _ _))

/-- A request for a booking. -/
structure Request.IsBooking (request : Request) : Prop where
  path : Route.ofPath? request.path = some .transactions
  method : request.method = "POST"

/-- What a request asks to book on some day, when its query and its body are
accepted. -/
structure Request.Asks (request : Request) (today : Date) (mode : BookingMode)
    (transaction : Payload.TransactionRequest) : Prop where
  mode : checkBookingMode request.query = .accepted mode
  transaction : ∃ body, readBody request.body = .value body ∧
    checkBody (Payload.TransactionRequest.check .request today) body =
      .accepted transaction

theorem Request.Asks.unique {request : Request} {today : Date}
    {mode otherMode : BookingMode}
    {transaction otherTransaction : Payload.TransactionRequest}
    (asks : request.Asks today mode transaction)
    (asksOther : request.Asks today otherMode otherTransaction) :
    mode = otherMode ∧ transaction = otherTransaction := by
  obtain ⟨modeAccepted, body, read, accepted⟩ := asks
  obtain ⟨otherModeAccepted, otherBody, otherRead, otherAccepted⟩ := asksOther
  rw [read] at otherRead
  cases otherRead
  rw [accepted] at otherAccepted
  rw [modeAccepted] at otherModeAccepted
  cases otherAccepted
  cases otherModeAccepted
  exact ⟨rfl, rfl⟩

/-- What a request books is settled, and so is the store into which it books. -/
theorem Request.Asks.unique_booking {request : Request}
    {store resolved ready : Store} {otherResolved otherReady : Store}
    {mode otherMode : BookingMode}
    {transaction otherTransaction : Payload.TransactionRequest}
    {resolution otherResolution : Resolution}
    (asks : request.Asks store.clock.today mode transaction)
    (asksOther : request.Asks store.clock.today otherMode otherTransaction)
    (resolving : resolveRequest transaction store = .ok (resolution, resolved))
    (resolvingOther : resolveRequest otherTransaction store =
      .ok (otherResolution, otherResolved))
    (replacing : replaced mode resolved = .ok ready)
    (replacingOther : replaced otherMode otherResolved = .ok otherReady) :
    transaction = otherTransaction ∧ resolution = otherResolution ∧
    ready = otherReady := by
  obtain ⟨rfl, rfl⟩ := asks.unique asksOther
  rw [resolving] at resolvingOther
  cases resolvingOther
  rw [replacing] at replacingOther
  cases replacingOther
  exact ⟨rfl, rfl, rfl⟩

def Request.CarriesNoTransfer (request : Request) : Prop :=
  ∀ body, readBody request.body = .value body →
    body.valueAt "transfer_id" = .null

instance (value : Json) : Decidable (value = .null) :=
  match value with
  | .null => .isTrue rfl
  | .bool _ | .int _ | .float _ | .str _ | .arr _ | .obj _ => .isFalse nofun

instance (request : Request) : Decidable request.CarriesNoTransfer :=
  match read : readBody request.body with
  | .value body =>
      decidable_of_iff (body.valueAt "transfer_id" = .null) (by
        constructor
        · intro absent other same
          rw [read] at same
          cases same
          exact absent
        · intro bare
          exact bare body read)
  | .broken _ | .unreadable => .isTrue (by
      intro body same
      rw [read] at same
      cases same)

theorem Request.Asks.transferId_eq_none {request : Request} {today : Date}
    {mode : BookingMode} {transaction : Payload.TransactionRequest}
    (asks : request.Asks today mode transaction)
    (bare : request.CarriesNoTransfer) :
    transaction.candidate.transferId = none := by
  obtain ⟨_, body, read, accepted⟩ := asks
  have absent := bare body read
  obtain ⟨fields, rfl, ⟨candidate, reads, dated⟩, _, _⟩ :=
    Payload.TransactionRequest.checkBody_eq_accepted_iff.mp accepted
  have transferId := reads.transferId
  rw [Payload.optional_eq_none_of_valueAt absent] at transferId
  rw [← dated]
  exact (Payload.Checked.accepted.inj transferId).symm

/-- The answer to a booking. -/
def bookingOutcome (store : Store) :
    Except Refusal (TransactionRow × Store) → Outcome
  | .error .noValidAccount =>
      .unchanged store
        (.detail 400 "Transaction has no valid account after applying rules")
  | .error (.duplicate row) =>
      ⟨store, do return .answer 409 (← duplicateBody row)⟩
  | .error (.fault (.transactionNotFound id)) =>
      .unchanged store
        (.detail 404 (StoreFault.message (.transactionNotFound id)))
  | .error (.fault fault) => .failed store fault
  | .ok (row, after) => ⟨after, do return .answer 201 (← showTransaction row)⟩

theorem store_bookingOutcome_error (store : Store) (refusal : Refusal) :
    (bookingOutcome store (.error refusal)).store = store := by
  unfold bookingOutcome
  split <;> first | rfl | contradiction

/-- A request whose body is accepted is answered by its booking, once its query
is accepted as well. -/
theorem createTransaction_eq {query : List (String × String)} {body : Json}
    {store : Store} {transaction : Payload.TransactionRequest}
    (accepted : checkBody
      (Payload.TransactionRequest.check .request store.clock.today) body =
      .accepted transaction) :
    createTransaction query body store =
      match checkBookingMode query with
      | .rejected problems => .unchanged store (.invalid problems)
      | .overflowed => .failed store .overflow
      | .accepted mode =>
        bookingOutcome store (booked mode transaction store) := by
  unfold createTransaction
  rw [accepted]
  cases checkBookingMode query with
  | rejected problems => rfl
  | overflowed => rfl
  | accepted mode => rfl

/-- Without an accepted query and body the store stays as it is. -/
theorem store_createTransaction_of_refused {query : List (String × String)}
    {body : Json} {store : Store}
    (refused : ∀ mode transaction, checkBookingMode query = .accepted mode →
      checkBody (Payload.TransactionRequest.check .request store.clock.today)
      body ≠ .accepted transaction) :
    (createTransaction query body store).store = store := by
  unfold createTransaction
  dsimp only
  split
  case h_1 => rfl
  case h_2 => rfl
  case h_3 mode transaction checked =>
    obtain ⟨_, _, paired, bodyAccepted, same⟩ :=
      Payload.Checked.seq_eq_accepted_iff.mp checked
    obtain ⟨_, modeAccepted, rfl⟩ :=
      Payload.Checked.map_eq_accepted_iff.mp paired
    exact (refused _ _ modeAccepted bodyAccepted).elim

/-- The rows of the three tables are the same. -/
structure SameTables (store other : Store) : Prop where
  accounts : other.accounts = store.accounts
  rules : other.rules = store.rules
  transactions : other.transactions = store.transactions

/-- What responding keeps of an outcome: the tables, and the answer as it is
sent. -/
structure Sends (request : Request) (outcome after : Outcome) : Prop where
  tables : SameTables outcome.store after.store
  result : after.result = sent request outcome.result

theorem sends_respond (request : Request) (store : Store) :
    Sends request (handle request store) (respond request store) := by
  unfold respond
  dsimp only
  generalize handle request store = outcome
  split
  case h_1 => split <;> exact ⟨⟨rfl, rfl, rfl⟩, rfl⟩
  case h_2 => exact ⟨⟨rfl, rfl, rfl⟩, rfl⟩

/-- What a request for a booking leaves in the table of transactions: the rows
after a booking, or the rows before when nothing was booked. -/
inductive Answered (request : Request) (store : Store)
    (rows : List TransactionRow) : Prop where
  | booked {mode : BookingMode} {transaction : Payload.TransactionRequest}
      {row : TransactionRow}
      {after : Store} (asks : request.Asks store.clock.today mode transaction)
      (success : booked mode transaction store = .ok (row, after))
      (left : rows = after.transactions) :
      Answered request store rows
  | refused
      (never : ∀ mode transaction,
        request.Asks store.clock.today mode transaction →
        ∀ row after, Service.booked mode transaction store ≠ .ok (row, after))
      (left : rows = store.transactions) :
      Answered request store rows

theorem answered_respond {request : Request} (booking : request.IsBooking)
    (store : Store) :
    Answered request store (respond request store).store.transactions := by
  have handled : handle request store =
      withBody request.body store fun body =>
        createTransaction request.query body store := by
    simp [handle, booking.path, booking.method]
  by_cases asked : ∃ mode transaction,
    request.Asks store.clock.today mode transaction
  case pos =>
    obtain ⟨mode, transaction, asks⟩ := asked
    obtain ⟨modeAccepted, body, read, bodyAccepted⟩ := asks
    have left : (respond request store).store.transactions =
        (bookingOutcome store
          (booked mode transaction store)).store.transactions := by
      rw [(sends_respond request store).tables.transactions, handled]
      simp only [withBody, read, createTransaction_eq bodyAccepted,
        modeAccepted]
    cases outcome : booked mode transaction store with
    | ok result =>
        obtain ⟨row, after⟩ := result
        rw [outcome] at left
        exact .booked ⟨modeAccepted, body, read, bodyAccepted⟩ outcome left
    | error refusal =>
        rw [outcome, store_bookingOutcome_error] at left
        refine .refused ?_ left
        intro otherMode otherTransaction asksOther row after success
        obtain ⟨rfl, rfl⟩ :=
          Request.Asks.unique ⟨modeAccepted, body, read, bodyAccepted⟩ asksOther
        rw [outcome] at success
        cases success
  case neg =>
    refine .refused ?_ ?_
    · intro mode transaction asks
      exact (asked ⟨mode, transaction, asks⟩).elim
    · rw [(sends_respond request store).tables.transactions, handled]
      unfold withBody
      cases read : readBody request.body with
      | broken position => rfl
      | unreadable => rfl
      | value body =>
          refine congrArg Store.transactions
            (store_createTransaction_of_refused ?_)
          intro mode transaction modeAccepted bodyAccepted
          exact asked ⟨mode, transaction, modeAccepted, body, read,
            bodyAccepted⟩

/-- A store with two accounts, on which bookings are tried. -/
def wallets : Store :=
  { Store.empty ⟨2024, 5, 1⟩ with
    accounts := ["wallet", "savings"].map fun id => {
      id, name := id, type := "checking", institution := none, lastFour := none
      currency := Store.defaultCurrency, balance := .finite false 0 0
      isActive := true, isDeleted := false, createdAt := 0 } }

/-- A request for a booking that carries a transfer to an account. -/
def movingTo (destination : String) : Request where
  method := "POST"
  path := "/api/v1/transactions"
  body := some ("\x7b\"description\": \"Move\", \"amount\": \"5\", " ++
    "\"account_id\": \"wallet\", \"transfer_to_account_id\": \"" ++
      destination ++
    "\", \"transfer_id\": \"t1\"\x7d")

end Service

end LedgerRules
