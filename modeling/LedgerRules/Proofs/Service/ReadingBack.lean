import LedgerRules.Proofs.Number.Places
import LedgerRules.Proofs.Service.Placement
import LedgerRules.Proofs.Store.Duplicates

/-!
# Amounts that are read back

An amount is stored as the nearest double and read back with four places.  It
comes back as the number that it was when that double is less than half a unit
of the last place away from it.  Below `2 ^ 39` every amount of four places
comes back; above, the doubles are further apart than the amounts are.
-/

namespace LedgerRules

namespace Decimal

/-- An amount with at most four digits after the point and at most fifteen
before it. -/
def FitsColumn (amount : Decimal) : Prop :=
  ∃ units : ℤ, amount.value? = some ((units : ℚ) / 10 ^ storedPlaces) ∧
    |units| < 10 ^ 19

/-- The double nearest to an amount lies within half a unit of the last place
that is read back, or just half a unit away and the amount ends in an even
digit. -/
def IsKept (amount : Decimal) : Prop :=
  ∃ (units : ℤ) (nearest : ℚ), amount.value? =
    some ((units : ℚ) / 10 ^ storedPlaces) ∧
    amount.toDouble.value? = some nearest ∧
      RoundsTo (nearest * 10 ^ storedPlaces) units

section Amounts

variable {amount : Decimal} {units : ℤ}

theorem abs_lt_of_units (bounded : |units| < 10 ^ 19) :
    |(units : ℚ) / 10 ^ storedPlaces| < 2 ^ (50 : ℤ) := by
  have places : storedPlaces = 4 := rfl
  have cast : |(units : ℚ)| < 10 ^ 19 := by exact_mod_cast bounded
  rw [abs_div, places, div_lt_iff₀ (by positivity)]
  norm_num
  linarith

theorem exists_nearest
    (value : amount.value? = some ((units : ℚ) / 10 ^ storedPlaces))
    (bounded : |units| < 10 ^ 19) :
    ∃ nearest, amount.toDouble.value? = some nearest := by
  obtain ⟨nearest, nearestValue, _⟩ :=
    toDouble_near value (by decide) (by decide) (abs_lt_of_units bounded)
  exact ⟨nearest, nearestValue⟩

private theorem isKept_of_small
    (value : amount.value? = some ((units : ℚ) / 10 ^ storedPlaces))
    (small : |(units : ℚ) / 10 ^ storedPlaces| < 2 ^ (39 : ℤ)) :
    amount.IsKept := by
  obtain ⟨nearest, nearestValue, distance⟩ := toDouble_near value (by decide)
    (by decide) small
  refine ⟨units, nearest, value, nearestValue, .inl ?_⟩
  have places : storedPlaces = 4 := rfl
  have spacing : Double.halfSpacing 39 = 1 / 2 ^ 15 := by
    have exponent : max Double.leastExponent (39 - 53) - 1 = -15 := by decide
    rw [Double.halfSpacing, exponent]
    norm_num
  rw [spacing, places] at distance
  have scaled : nearest * 10 ^ storedPlaces - units =
      (nearest - units / 10 ^ 4) * 10 ^ 4 := by
    rw [places]
    ring
  rw [scaled, abs_mul, abs_of_pos (by positivity : (0 : ℚ) < 10 ^ 4)]
  calc |nearest - units / 10 ^ 4| * 10 ^ 4
      ≤ 1 / 2 ^ 15 * 10 ^ 4 := mul_le_mul_of_nonneg_right distance
        (by positivity)
    _ < 1 / 2 := by norm_num

end Amounts

end Decimal

namespace Store

/-- A row is read back with an amount that is the same number as another one. -/
def ReadsBack (amount : Decimal) (row : TransactionRow) : Prop :=
  (readBack row.amount).sameNumber amount = true

/-- A row in which a fitting amount was stored is read back with it exactly when
the amount is kept. -/
theorem readsBack_iff_of_stored {amount : Decimal} {row : TransactionRow}
    (stored : storedAmount amount = .ok row.amount) (fits : amount.FitsColumn) :
    ReadsBack amount row ↔ amount.IsKept := by
  obtain ⟨units, value, bounded⟩ := fits
  obtain ⟨nearest, nearestValue⟩ := Decimal.exists_nearest value bounded
  have rowValue : row.amount.value? = some nearest := by
    rw [← (storedAmount_eq_ok_iff.mp stored).2, Double.value?_unsignedZero,
      nearestValue]
  obtain ⟨whole, rounds, readValue⟩ := Decimal.value?_ofDoubleFixed rowValue
    storedPlaces
  have compared := Decimal.compare?_of_value readValue value
  have unit : (10 : ℚ) ^ storedPlaces ≠ 0 := by positivity
  have same : ReadsBack amount row ↔ whole = units := by
    rw [ReadsBack, readBack, Decimal.sameNumber, decide_eq_true_iff, compared,
      Option.some.injEq, compare_eq_iff_eq, div_left_inj' unit, Int.cast_inj]
  rw [same]
  constructor
  · rintro rfl
    exact ⟨whole, nearest, value, nearestValue, rounds⟩
  · rintro ⟨other, otherNearest, otherValue, otherNearestValue, otherRounds⟩
    rw [value, Option.some.injEq, div_left_inj' unit, Int.cast_inj]
      at otherValue
    rw [nearestValue, Option.some.injEq] at otherNearestValue
    subst otherValue otherNearestValue
    exact rounds.unique otherRounds

/-- The amounts that a booking asks to store: that of the transaction, and that
of the other half that it wants. -/
def askedAmounts (resolution : Resolution) (store : Store) : List Decimal :=
  resolution.amount ::
    ((store.wantedHalf resolution).map TransferRequest.amount).toList

/-- A row keeps an amount as its nearest double. -/
def KeepsAmount (amount : Decimal) (row : TransactionRow) : Prop :=
  storedAmount amount = .ok row.amount

theorem Inserted.keepsAmount {new : NewTransaction} {store after : Store}
    {row : TransactionRow} (inserted : Inserted new store row after)
    {amount : Decimal} (asked : new.amount = some amount) :
    KeepsAmount amount row := by
  obtain ⟨given, same, stored⟩ := inserted.amount
  rw [asked] at same
  cases same
  exact stored

theorem keepsAmounts_of_book {resolution : Resolution}
    {duplicateStatus : Option String} {store after : Store}
    {row : TransactionRow}
    (success : store.book resolution duplicateStatus = .ok (row, after)) :
    ∃ halves, after.transactions = store.transactions ++ row :: halves ∧
      List.Forall₂ KeepsAmount (store.askedAmounts resolution)
        (row :: halves) := by
  unfold askedAmounts
  cases booked_of_book success with
  | single account noHalf inserted =>
      rw [noHalf]
      exact ⟨[], inserted.transactions, .cons (inserted.keepsAmount rfl) .nil⟩
  | @paired accountId request half between account wanted inserted halved =>
      rw [wanted]
      refine ⟨[half], ?_, .cons (inserted.keepsAmount rfl)
        (.cons (halved.keepsAmount rfl) .nil)⟩
      rw [halved.transactions, inserted.transactions, List.append_assoc]
      rfl

end Store

namespace Service

open Store Resolution

private theorem askedAmounts_of_resolved {known : KnownAccounts}
    {ids after : IdSource} {candidate : Candidate} {resolution : Resolution}
    (resolved : Resolved known ids candidate resolution after) (store : Store) :
    ∀ amount ∈ store.askedAmounts resolution, amount = candidate.amount := by
  have own := resolved.carries.amount
  have wanted := wanted_wantedHalf resolved store
  unfold askedAmounts
  cases half : store.wantedHalf resolution with
  | none => simpa using own
  | some request =>
      rw [half] at wanted
      have same : request.amount = resolution.amount := by
        cases wanted with
        | new => rfl
        | carried => rfl
      simp [same, own]

private theorem keepsAmount_of_mem_insertedBy {request : Request}
    (booking : request.IsBooking) {store : Store} {mode : BookingMode}
    {transaction : Payload.TransactionRequest}
    (asks : request.Asks store.clock.today mode transaction)
    {row : TransactionRow} (member : row ∈ insertedBy request store) :
    KeepsAmount transaction.candidate.amount row := by
  cases answered_respond booking store with
  | refused never left =>
      rw [insertedBy, left, List.drop_length] at member
      cases member
  | @booked otherMode other first after otherAsks success left =>
      obtain ⟨rfl, rfl⟩ := asks.unique otherAsks
      obtain ⟨resolution, resolved, ready, resolving, _, _, replacing,
        booked⟩ :=
        booked_eq_ok success
      obtain ⟨outcome, same⟩ := resolved_of_resolveRequest resolving
      obtain ⟨halves, appended, kept⟩ := keepsAmounts_of_book booked
      have length : ready.transactions.length = store.transactions.length := by
        rw [length_replaced replacing, same]
      rw [insertedBy, left, appended, ← length, List.drop_left] at member
      obtain ⟨amount, asked, keeps⟩ := exists_mem_of_forall₂ kept row member
      rwa [askedAmounts_of_resolved outcome ready amount asked] at keeps

/-- What the column of amounts of a store keeps.  The rows of a booking come
back with the amounts that they were asked to store, and the rows of a request
with the amount that was posted, exactly when these amounts are kept, and all
amounts of four places below `2 ^ 39` are. -/
theorem readsBack_iff_isKept (store : Store) :
    (∀ (resolution : Resolution) (duplicateStatus : Option String)
      (after : Store)
        (row : TransactionRow), store.book resolution duplicateStatus =
          .ok (row, after) →
      ∃ halves, after.transactions = store.transactions ++ row :: halves ∧
        List.Forall₂
          (fun amount row => amount.FitsColumn →
            (ReadsBack amount row ↔ amount.IsKept))
          (store.askedAmounts resolution) (row :: halves)) ∧
      (∀ (request : Request) (mode : BookingMode)
        (transaction : Payload.TransactionRequest), request.IsBooking →
        request.Asks store.clock.today mode transaction →
        transaction.candidate.amount.FitsColumn →
        ∀ row ∈ insertedBy request store,
          (ReadsBack transaction.candidate.amount row ↔
            transaction.candidate.amount.IsKept)) ∧
      ∀ (amount : Decimal) (units : ℤ),
        amount.value? = some ((units : ℚ) / 10 ^ storedPlaces) →
        |(units : ℚ) / 10 ^ storedPlaces| < 2 ^ (39 : ℤ) → amount.IsKept := by
  refine ⟨?_, ?_, fun _ _ => Decimal.isKept_of_small⟩
  · intro resolution duplicateStatus after row success
    obtain ⟨halves, appended, kept⟩ := keepsAmounts_of_book success
    exact ⟨halves, appended, kept.imp fun _ _ => readsBack_iff_of_stored⟩
  · intro request mode transaction booking asks fits row member
    exact readsBack_iff_of_stored
      (keepsAmount_of_mem_insertedBy booking asks member) fits

/-- What a request asks to book, when it asks for anything. -/
def Request.asked? (request : Request) (today : Date) :
    Option (BookingMode × Payload.TransactionRequest) :=
  match readBody request.body, checkBookingMode request.query with
  | .value body, .accepted mode =>
      match checkBody (Payload.TransactionRequest.check .request today) body
        with
      | .accepted transaction => some (mode, transaction)
      | _ => none
  | _, _ => none

theorem Request.asks_of_asked? {request : Request} {today : Date}
    {mode : BookingMode} {transaction : Payload.TransactionRequest}
    (asked : request.asked? today = some (mode, transaction)) :
    request.Asks today mode transaction := by
  unfold asked? at asked
  split at asked
  case h_1 body accepted read modeAccepted =>
    split at asked
    case h_1 bodyAccepted =>
      cases asked
      exact ⟨modeAccepted, body, read, bodyAccepted⟩
    case h_2 => cases asked
  case h_2 => cases asked

/-- A request that moves an amount to the other account. -/
def moveOf (amount : String) : Request where
  method := "POST"
  path := "/api/v1/transactions"
  body := some ("\x7b\"description\": \"Move\", \"amount\": \"" ++ amount ++
    "\", \"account_id\": \"wallet\", \"transfer_to_account_id\": \"savings\"\x7d")

theorem isBooking_moveOf (amount : String) : (moveOf amount).IsBooking :=
  ⟨show Route.ofPath? "/api/v1/transactions" =
    some .transactions by decide +kernel, rfl⟩

/-- The greatest amount of four places below `2 ^ 39` comes back on both
accounts. -/
theorem readsBack_iff_isKept_moving :
    ∃ mode transaction,
      (moveOf "549755813887.9999").IsBooking ∧
        (moveOf "549755813887.9999").Asks wallets.clock.today mode transaction ∧
        transaction.candidate.amount.FitsColumn ∧
        (insertedBy (moveOf "549755813887.9999") wallets).map
          TransactionRow.accountId =
          ["wallet", "savings"] ∧
        ∀ row ∈ insertedBy (moveOf "549755813887.9999") wallets,
          ReadsBack transaction.candidate.amount row := by
  have amounts : ((moveOf "549755813887.9999").asked? wallets.clock.today).map
      (fun asked => asked.2.candidate.amount) =
        some (.finite false 5497558138879999 (-4)) := by
    decide +kernel
  obtain ⟨⟨mode, transaction⟩, asked, amount⟩ :=
    Option.map_eq_some_iff.mp amounts
  have asks := Request.asks_of_asked? asked
  have booking := isBooking_moveOf "549755813887.9999"
  have value : transaction.candidate.amount.value? =
      some (((5497558138879999 : ℤ) : ℚ) / 10 ^ storedPlaces) := by
    rw [show transaction.candidate.amount = _ from amount]
    simp [Decimal.value?, storedPlaces, zpow_neg]
    norm_num
  have fits : transaction.candidate.amount.FitsColumn := ⟨_, value, by norm_num⟩
  obtain ⟨_, posted, small⟩ := readsBack_iff_isKept wallets
  have kept := small _ _ value (by
    rw [show storedPlaces = 4 from rfl]
    norm_num)
  refine ⟨mode, transaction, booking, asks, fits, by decide +kernel, ?_⟩
  intro row member
  exact (posted _ mode transaction booking asks fits row member).mpr kept

/-- The greatest amount of the column comes back as another one. -/
theorem not_readsBack_fortune :
    (Decimal.finite false 9999999999999999999 (-4)).FitsColumn ∧
      ((moveOf "999999999999999.9999").asked? wallets.clock.today).map
        (fun asked => asked.2.candidate.amount) =
          some (.finite false 9999999999999999999 (-4)) ∧
      (insertedBy (moveOf "999999999999999.9999") wallets).map
          (fun row => (row.accountId, (readBack row.amount).text)) =
        [("wallet", "1000000000000000.0000"),
          ("savings", "1000000000000000.0000")] ∧
      ∀ row ∈ insertedBy (moveOf "999999999999999.9999") wallets,
        ¬ ReadsBack (.finite false 9999999999999999999 (-4)) row := by
  refine ⟨⟨9999999999999999999,
    ?_, by norm_num⟩, by decide +kernel, by decide +kernel, ?_⟩
  · simp [Decimal.value?, storedPlaces, zpow_neg]
    norm_num
  · have none :
        ((insertedBy (moveOf "999999999999999.9999") wallets).all fun row =>
        !(readBack row.amount).sameNumber
          (.finite false 9999999999999999999 (-4))) = true := by
      decide +kernel
    intro row member back
    have other := List.all_eq_true.mp none row member
    rw [ReadsBack] at back
    simp [back] at other

end Service

end LedgerRules
