import LedgerRules.Proofs.Service.Pairing
import LedgerRules.Proofs.Store.Deleting

/-!
# Deleting after bookings

In a store that grew out of bookings, deleting a transaction marks it and its
counterpart, until a request tangles transfers: it joins one that has live rows,
and does not complete it.  The empty identifier counts as a transfer here,
although no other half is ever inserted for it.  Bodies that carry no transfer
tangle nothing.
-/

namespace LedgerRules

namespace Service

open Resolution Store

/-- A request tangles transfers when it is booked, and its booking does. -/
inductive Request.Tangles (request : Request) (store : Store) : Prop where
  | intro {mode : BookingMode} {transaction : Payload.TransactionRequest}
      {row : TransactionRow} {after resolved ready : Store}
        {resolution : Resolution}
      (asks : request.Asks store.clock.today mode transaction)
      (success : booked mode transaction store = .ok (row, after))
      (resolving : resolveRequest transaction store =
        .ok (resolution, resolved))
      (replacing : replaced mode resolved = .ok ready)
      (tangles : Store.Tangles resolution ready) :
      request.Tangles store

section Responding

variable {request : Request} {store : Store}

theorem agreeing_replaced {mode : BookingMode} {ready : Store}
    (success : replaced mode store = .ok ready)
    (agreeing : Agreeing store.transactions) :
    Agreeing ready.transactions := by
  rcases replaced_eq_ok success with rfl | ⟨row, _, rfl⟩
  · exact agreeing
  · exact agreeing_map_afterDeleting agreeing row

private theorem agreeing_respond_iff (booking : request.IsBooking)
    (agreeing : Agreeing store.transactions) :
    Agreeing (respond request store).store.transactions ↔
      ¬ request.Tangles store := by
  cases answered_respond booking store with
  | refused never left =>
      rw [left]
      refine iff_of_true agreeing ?_
      rintro ⟨asks, success, _, _, _⟩
      exact never _ _ asks _ _ success
  | @booked mode transaction row after asks success left =>
      obtain ⟨resolution, resolved, ready, resolving, _, _, replacing,
        booking⟩ :=
        booked_eq_ok success
      obtain ⟨outcome, same⟩ := resolved_of_resolveRequest resolving
      have agreeingResolved : Agreeing resolved.transactions := by
        rw [same]
        exact agreeing
      rw [left, agreeing_of_book_iff outcome
        (agreeing_replaced replacing agreeingResolved)
        booking]
      apply not_congr
      constructor
      · intro tangles
        exact .intro asks success resolving replacing tangles
      · rintro ⟨otherAsks, _, otherResolving, otherReplacing, tangles⟩
        obtain ⟨rfl, rfl, rfl⟩ :=
          asks.unique_booking otherAsks resolving otherResolving replacing
            otherReplacing
        exact tangles

theorem nodup_ids_respond (booking : request.IsBooking)
    (ids : (store.transactions.map TransactionRow.id).Nodup) :
    ((respond request store).store.transactions.map
      TransactionRow.id).Nodup := by
  cases answered_respond booking store with
  | refused never left =>
      rw [left]
      exact ids
  | booked asks success left =>
      obtain ⟨_, resolved, ready, resolving, _, _, replacing, booking⟩ :=
        booked_eq_ok success
      have same : resolved.transactions = store.transactions := by
        rw [(resolved_of_resolveRequest resolving).2]
      rw [left]
      refine nodup_ids_of_book ?_ booking
      rcases replaced_eq_ok replacing with rfl | ⟨row, _, rfl⟩
      · rw [same]
        exact ids
      · rw [same, map_id_map_afterDeleting]
        exact ids

end Responding

/-- In each store of a run, deleting marks a row and its counterpart only. -/
def PartsAlways : Store → List Request → Prop
  | store, [] => store.PartsCounterparts
  | store, request :: rest =>
      store.PartsCounterparts ∧ PartsAlways (respond request store).store rest

/-- Some request of a run tangles transfers. -/
def Tangled : Store → List Request → Prop
  | _, [] => False
  | store, request :: rest =>
      request.Tangles store ∨ Tangled (respond request store).store rest

theorem PartsAlways.first {requests : List Request} {store : Store}
    (always : PartsAlways store requests) : store.PartsCounterparts := by
  cases requests with
  | nil => exact always
  | cons request rest => exact always.1

private theorem partsAlways_iff_of_agreeing {requests : List Request}
    (bookings : ∀ request ∈ requests, request.IsBooking) {store : Store}
    (ids : (store.transactions.map TransactionRow.id).Nodup)
    (agreeing : Agreeing store.transactions) :
    PartsAlways store requests ↔ ¬ Tangled store requests := by
  induction requests generalizing store with
  | nil =>
      have parts := (partsCounterparts_iff_agreeing ids).mpr agreeing
      exact iff_of_true parts not_false
  | cons request rest induction =>
      obtain ⟨booking, others⟩ := List.forall_mem_cons.mp bookings
      have parts := (partsCounterparts_iff_agreeing ids).mpr agreeing
      have idsAfter := nodup_ids_respond booking ids
      have step := agreeing_respond_iff booking agreeing
      rw [PartsAlways, Tangled]
      by_cases tangles : request.Tangles store
      case pos =>
        refine iff_of_false ?_ fun never => never (.inl tangles)
        rintro ⟨_, later⟩
        exact step.mp ((partsCounterparts_iff_agreeing idsAfter).mp later.first)
          tangles
      case neg =>
        rw [and_iff_right parts, not_or, and_iff_right tangles]
        exact induction others idsAfter (step.mpr tangles)

/-- A request for a booking whose body carries the empty identifier of a
transfer. -/
def blank (description amount : String) : Request where
  method := "POST"
  path := "/api/v1/transactions"
  body := some
    ("\x7b\"description\": \"" ++ description ++ "\", \"amount\": \"" ++
    amount ++
    "\", \"account_id\": \"wallet\", \"transfer_id\": \"\"\x7d")

/-- The store after two such bookings. -/
def blanked : Store :=
  (respond (blank "Dinner" "7")
    (respond (blank "Lunch" "5") wallets).store).store

/-- After bookings whose bodies carry no transfer, deleting marks a row and its
counterpart only. -/
theorem Reached.partsCounterparts {store : Store} (reached : Reached store) :
    store.PartsCounterparts :=
  (partsCounterparts_iff_agreeing reached.paired.ids).mpr
    reached.paired.agreeing

end Service

end LedgerRules
