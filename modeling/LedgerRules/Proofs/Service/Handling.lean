import LedgerRules.Proofs.Service.Booking

/-!
# How requests are handled

A request for a booking is answered by its booking once its query and its body
are accepted, and refused otherwise.  Responding passes on what handling
answers, and gives back identifiers and time after a failure.
-/

namespace LedgerRules

namespace Service

/-- How a request for a booking is handled: by the booking that it asks for, or
by a refusal that leaves the store. -/
inductive Handled (request : Request) (store : Store) : Outcome → Prop where
  | asked {mode : BookingMode} {transaction : Payload.TransactionRequest}
      (asks : request.Asks store.clock.today mode transaction) :
      Handled request store
        (bookingOutcome store (booked mode transaction store))
  | refused {result : Except StoreFault Response}
      (status : ∀ response, result = .ok response →
        failureStatus ≤ response.status) :
      Handled request store ⟨store, result⟩

theorem failureStatus_le_invalid (problems : List Payload.Problem) :
    failureStatus ≤ (Response.invalid problems).status := by
  show 400 ≤ 422
  decide

theorem failureStatus_le_of_refusal {store : Store} {refusal : Refusal}
    {response : Response}
    (answered : (bookingOutcome store (.error refusal)).result = .ok response) :
    failureStatus ≤ response.status := by
  unfold bookingOutcome at answered
  split at answered
  case h_1 =>
    cases answered
    exact Nat.le_refl _
  case h_2 row _ =>
    obtain ⟨_, _, rest⟩ := bind_eq_ok_iff.mp answered
    cases rest
    show 400 ≤ 409
    decide
  case h_3 =>
    cases answered
    show 400 ≤ 404
    decide
  case h_4 => cases answered
  case h_5 same => cases same

theorem handled_createTransaction {request : Request} {body : Json}
    (read : readBody request.body = .value body) (store : Store) :
    Handled request store (createTransaction request.query body store) := by
  cases checked :
    checkBody (Payload.TransactionRequest.check .request store.clock.today) body
    with
  | accepted transaction =>
      rw [createTransaction_eq checked]
      cases mode : checkBookingMode request.query with
      | accepted mode' => exact .asked ⟨mode, body, read, checked⟩
      | rejected problems =>
          apply Handled.refused
          rintro response ⟨⟩
          exact failureStatus_le_invalid _
      | overflowed => exact .refused nofun
  | rejected problems =>
      unfold createTransaction
      rw [checked]
      cases checkBookingMode request.query with
      | overflowed => exact .refused nofun
      | _ =>
          apply Handled.refused
          rintro response ⟨⟩
          exact failureStatus_le_invalid _
  | overflowed =>
      unfold createTransaction
      rw [checked]
      cases checkBookingMode request.query <;> exact .refused nofun

theorem handled_handle {request : Request} (booking : request.IsBooking)
    (store : Store) :
    Handled request store (handle request store) := by
  have handled : handle request store =
      withBody request.body store fun body =>
        createTransaction request.query body store := by
    simp [handle, booking.path, booking.method]
  rw [handled]
  unfold withBody
  cases read : readBody request.body with
  | value body => exact handled_createTransaction read store
  | broken position =>
      apply Handled.refused
      rintro response ⟨⟩
      exact failureStatus_le_invalid _
  | unreadable =>
      apply Handled.refused
      rintro response ⟨⟩
      show failureStatus ≤ 400
      exact Nat.le_refl _

theorem handle_eq_of_asks {request : Request} (booking : request.IsBooking)
    {store : Store} {mode : BookingMode}
    {transaction : Payload.TransactionRequest}
    (asks : request.Asks store.clock.today mode transaction) :
    handle request store = bookingOutcome store
      (booked mode transaction store) := by
  obtain ⟨modeAccepted, body, read, bodyAccepted⟩ := asks
  simp only [handle, booking.path, booking.method, withBody, read,
    createTransaction_eq bodyAccepted, modeAccepted]

theorem sent_eq_ok_iff {request : Request} {result : Except StoreFault Response}
    {response : Response} :
    sent request result = .ok response ↔
      result = .ok response ∧
      (request.isHalved = true → failureStatus ≤ response.status) := by
  cases result with
  | error fault => simp [sent]
  | ok answer =>
      simp only [sent, Bool.and_eq_true, decide_eq_true_eq]
      split
      case isTrue held =>
        obtain ⟨halved, below⟩ := held
        constructor
        · nofun
        · rintro ⟨⟨⟩, failing⟩
          exact absurd (failing halved) (Nat.not_le.mpr below)
      case isFalse kept =>
        simp only [not_and, Nat.not_lt] at kept
        constructor
        · rintro ⟨⟩
          exact ⟨rfl, kept⟩
        · exact And.left

/-- An answer that tells of no failure is passed on with the store. -/
theorem respond_eq_of_success {request : Request} {store : Store}
    {response : Response}
    (answered : (respond request store).result = .ok response)
    (success : response.status < failureStatus) :
    respond request store = handle request store := by
  rw [(sends_respond request store).result] at answered
  have handled := (sent_eq_ok_iff.mp answered).1
  unfold respond
  simp only [answered, decide_eq_true_eq, if_neg (Nat.not_le.mpr success)]
  rw [← handled]

/-- A failure that leaves the store also leaves it after responding. -/
theorem respond_eq_of_unchanged {request : Request} {store : Store}
    (unchanged : (handle request store).store = store) :
    respond request store =
      ⟨store, sent request (handle request store).result⟩ := by
  unfold respond
  generalize handle request store = outcome at unchanged ⊢
  obtain ⟨left, result⟩ := outcome
  cases unchanged
  have kept : left.withCountersOf left = left := rfl
  simp [kept]

end Service

end LedgerRules
