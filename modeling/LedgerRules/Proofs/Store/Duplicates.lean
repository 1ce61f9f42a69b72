import LedgerRules.Proofs.Number.Nearest
import LedgerRules.Proofs.Store.Booking

/-!
# Which rows count as duplicates

A live row shares the text of a resolution, or its key.  Looking for a duplicate
finds the first row that shares the text, and the first that shares the key when
there is none.  Whatever is booked from a resolution shares its key.
-/

namespace LedgerRules

namespace Store

/-- Whether a row has the raw text and the source of a resolution that has
both. -/
def sharesText (resolution : Resolution) (row : TransactionRow) : Bool :=
  match nonEmpty? resolution.rawText, nonEmpty? (some resolution.source) with
  | some rawText, some source =>
      row.rawText = some rawText && row.source = source
  | _, _ => false

/-- Whether a row has the date, the stored amount and the account of a
resolution that is dated and on an account. -/
def sharesKey (resolution : Resolution) (row : TransactionRow) : Bool :=
  match resolution.transactionDate, resolution.accountId with
  | some date, some accountId =>
      row.transactionDate =
        date && row.amount.sameNumber resolution.amount.toDouble &&
        row.accountId = accountId
  | _, _ => false

theorem sharesText_iff {resolution : Resolution} {row : TransactionRow} :
    sharesText resolution row = true ↔
      ∃ rawText source, nonEmpty? resolution.rawText = some rawText ∧
        nonEmpty? (some resolution.source) = some source ∧
        row.rawText = some rawText ∧
        row.source = source := by
  unfold sharesText
  cases nonEmpty? resolution.rawText with
  | none => simp
  | some rawText =>
      cases nonEmpty? (some resolution.source) with
      | none => simp
      | some source =>
          constructor
          · intro shares
            obtain ⟨text, same⟩ := by simpa using shares
            exact ⟨rawText, source, rfl, rfl, text, same⟩
          · rintro ⟨_, _, ⟨⟩, ⟨⟩, text, same⟩
            simp [text, same]

theorem sharesKey_iff {resolution : Resolution} {row : TransactionRow} :
    sharesKey resolution row = true ↔
      resolution.transactionDate = some row.transactionDate ∧
        row.amount.sameNumber resolution.amount.toDouble = true ∧
        resolution.accountId = some row.accountId := by
  unfold sharesKey
  cases resolution.transactionDate with
  | none => simp
  | some date =>
      cases resolution.accountId with
      | none => simp
      | some accountId =>
          simp only [Bool.and_eq_true, decide_eq_true_eq, Option.some.injEq,
            and_assoc]
          rw [eq_comm (a := row.transactionDate), eq_comm (a := row.accountId)]

/-- The first live row with the text of a resolution, when that has one. -/
def findText (resolution : Resolution) (store : Store) :
    Option TransactionRow :=
  match nonEmpty? resolution.rawText, nonEmpty? (some resolution.source) with
  | some rawText, some source => store.findByRawText rawText source
  | _, _ => none

/-- The first live row with the key of a resolution, when that has one. -/
def findKey (resolution : Resolution) (store : Store) :
    Except StoreFault (Option TransactionRow) :=
  match resolution.transactionDate, resolution.accountId with
  | some date, some accountId =>
      store.findByKey date resolution.amount accountId
  | _, _ => .ok none

private theorem findText_eq (resolution : Resolution) (store : Store) :
    store.findText resolution = store.liveTransactions.find?
      (sharesText resolution) := by
  unfold findText
  cases text : nonEmpty? resolution.rawText with
  | none =>
      refine (List.find?_eq_none.mpr ?_).symm
      simp [sharesText, text]
  | some rawText =>
      cases source : nonEmpty? (some resolution.source) with
      | none =>
          refine (List.find?_eq_none.mpr ?_).symm
          simp [sharesText, text, source]
      | some sourceText =>
          have shares : sharesText resolution =
              fun row => row.rawText = some rawText && row.source =
                sourceText := by
            funext row
            simp [sharesText, text, source]
          rw [shares]
          rfl

private theorem findKey_eq {resolution : Resolution}
    (quiet : resolution.amount.isSignalling = false) (store : Store) :
    store.findKey resolution =
      .ok (store.liveTransactions.find? (sharesKey resolution)) := by
  unfold findKey
  cases dated : resolution.transactionDate with
  | none =>
      refine congrArg Except.ok (List.find?_eq_none.mpr ?_).symm
      simp [sharesKey, dated]
  | some date =>
      cases account : resolution.accountId with
      | none =>
          refine congrArg Except.ok (List.find?_eq_none.mpr ?_).symm
          simp [sharesKey, dated, account]
      | some accountId =>
          have shares : sharesKey resolution = fun row =>
              row.transactionDate =
                date && row.amount.sameNumber resolution.amount.toDouble &&
                row.accountId = accountId := by
            funext row
            simp [sharesKey, dated, account]
          simp [findByKey, quiet, shares]

theorem findDuplicate_eq_elim (resolution : Resolution) (store : Store) :
    store.findDuplicate resolution = (store.findText resolution).elim
      ((store.findKey resolution).map fun row? => row?.map fun row =>
        (row, .key))
      fun row => .ok (some (row, .rawText)) := by
  unfold findDuplicate findText findKey Resolution.duplicateKey
  cases nonEmpty? resolution.rawText with
  | none => cases resolution.transactionDate <;> cases resolution.accountId <;>
      rfl
  | some rawText =>
      cases nonEmpty? (some resolution.source) with
      | none => cases resolution.transactionDate <;>
          cases resolution.accountId <;> rfl
      | some source =>
          dsimp only
          cases store.findByRawText rawText source with
          | some row => rfl
          | none => cases resolution.transactionDate <;>
              cases resolution.accountId <;> rfl

theorem findDuplicate_eq {resolution : Resolution}
    (quiet : resolution.amount.isSignalling = false) (store : Store) :
    store.findDuplicate resolution =
      .ok (((store.liveTransactions.find? (sharesText resolution)).map
          fun row => (row, DuplicateReason.rawText)).or
        ((store.liveTransactions.find? (sharesKey resolution)).map
          fun row => (row, DuplicateReason.key))) := by
  rw [findDuplicate_eq_elim, findText_eq, findKey_eq quiet]
  cases store.liveTransactions.find? (sharesText resolution) <;> rfl

theorem findDuplicate_eq_none_iff {resolution : Resolution}
    (quiet : resolution.amount.isSignalling = false) {store : Store} :
    store.findDuplicate resolution = .ok none ↔
      ∀ row ∈ store.liveTransactions,
        sharesText resolution row = false ∧
        sharesKey resolution row = false := by
  rw [findDuplicate_eq quiet]
  simp only [Except.ok.injEq, Option.or_eq_none_iff, Option.map_eq_none_iff,
    List.find?_eq_none, Bool.not_eq_true]
  constructor
  · rintro ⟨text, key⟩ row member
    exact ⟨text row member, key row member⟩
  · intro free
    exact ⟨fun row member => (free row member).1, fun row member =>
      (free row member).2⟩

/-- The first live row that shares text or key is found, when it shares the key
and no row behind it shares the text. -/
theorem findDuplicate_eq_some {resolution : Resolution}
    (quiet : resolution.amount.isSignalling = false) {store : Store}
    {before behind : List TransactionRow} {row : TransactionRow}
    (live : store.liveTransactions = before ++ row :: behind)
    (free : ∀ other ∈ before,
      sharesText resolution other = false ∧ sharesKey resolution other = false)
    (textless : ∀ other ∈ behind, sharesText resolution other = false)
    (shares : sharesKey resolution row = true) :
    ∃ reason, store.findDuplicate resolution = .ok (some (row, reason)) := by
  have noText : before.find? (sharesText resolution) = none := by
    simpa [List.find?_eq_none] using fun other member => (free other member).1
  have noKey : before.find? (sharesKey resolution) = none := by
    simpa [List.find?_eq_none] using fun other member => (free other member).2
  have noneBehind : behind.find? (sharesText resolution) = none := by
    simpa [List.find?_eq_none] using textless
  rw [findDuplicate_eq quiet, live, List.find?_append, List.find?_append,
    noText, noKey, Option.none_or, Option.none_or]
  cases text : sharesText resolution row with
  | true => exact ⟨.rawText, by simp [text]⟩
  | false => exact ⟨.key, by simp [text, shares, noneBehind]⟩

theorem storedAmount_eq_ok_iff {amount : Decimal} {double : Double} :
    storedAmount amount = .ok double ↔
      amount.isNaN = false ∧ amount.toDouble.unsignedZero = double := by
  unfold storedAmount
  cases amount with
  | nan negative signalling payload =>
      cases signalling <;> simp [Decimal.isSignalling, Decimal.isNaN]
  | _ => simp [Decimal.isSignalling, Decimal.isNaN]

theorem isSignalling_of_stored {amount : Decimal} {double : Double}
    (stored : storedAmount amount = .ok double) :
    amount.isSignalling = false := by
  have number := (storedAmount_eq_ok_iff.mp stored).1
  cases amount with
  | nan => cases number
  | _ => rfl

/-- A stored amount equals every amount that denotes the same number. -/
theorem sameNumber_of_stored {amount other : Decimal} {double : Double}
    {number : ℚ} (stored : storedAmount amount = .ok double)
    (value : amount.value? = some number)
    (otherValue : other.value? = some number) :
    double.sameNumber other.toDouble = true := by
  have same := Decimal.sameNumber_toDouble_of_value value otherValue
  rw [← (storedAmount_eq_ok_iff.mp stored).2, Double.sameNumber,
    Double.compare?_unsignedZero]
  exact same

private theorem sameNumber_toDouble_of_stored {amount : Decimal}
    {double : Double} (stored : storedAmount amount = .ok double) :
    double.sameNumber amount.toDouble = true := by
  obtain ⟨number, same⟩ := storedAmount_eq_ok_iff.mp stored
  rw [← same, Double.sameNumber, Double.compare?_unsignedZero]
  apply Double.sameNumber_self
  cases amount with
  | finite negative coefficient exponent => exact Decimal.toDouble_ne_nan _ _ _
  | infinite negative =>
      intro same
      cases same
  | nan => cases number

/-- The rows that a booking leaves: the transaction, perhaps with another half
that has no raw text, behind the rows that were there. -/
structure Posted (resolution : Resolution) (store : Store)
    (row : TransactionRow) (after : Store) : Prop where
  transactions : ∃ halves : List TransactionRow,
    after.transactions = store.transactions ++ row :: halves ∧
      ∀ half ∈ halves, half.rawText = none
  accountId : resolution.accountId = some row.accountId
  transactionDate : row.transactionDate = bookingDate resolution store
  rawText : row.rawText = resolution.rawText
  source : row.source = resolution.source
  amount : storedAmount resolution.amount = .ok row.amount
  live : row.isDeleted = false

theorem posted_of_inserted {resolution : Resolution} {accountId : String}
    {date : Date} {duplicateStatus : Option String}
    {store between after : Store} {row : TransactionRow}
    (account : resolution.accountId = some accountId)
    (dated : date = bookingDate resolution store)
    (inserted : Inserted (primary resolution accountId date duplicateStatus)
      store row between)
    {halves : List TransactionRow}
    (appended : after.transactions = between.transactions ++ halves)
    (textless : ∀ half ∈ halves, half.rawText = none) :
    Posted resolution store row after := by
  obtain ⟨amount, given, stored⟩ := inserted.amount
  have sameAmount : resolution.amount = amount := Option.some.inj given
  have sameDate : date = row.transactionDate :=
    Option.some.inj inserted.transactionDate
  have sameAccount : accountId = row.accountId :=
    Option.some.inj inserted.accountId
  rw [sameAmount.symm] at stored
  refine {
    transactions := ⟨halves, ?_, textless⟩
    accountId := sameAccount ▸ account
    transactionDate := sameDate.symm.trans dated
    rawText := inserted.rawText
    source := inserted.source
    amount := stored
    live := inserted.isDeleted }
  rw [appended, inserted.transactions, List.append_assoc, List.singleton_append]

theorem posted_of_book {resolution : Resolution}
    {duplicateStatus : Option String} {store after : Store}
    {row : TransactionRow}
    (success : store.book resolution duplicateStatus = .ok (row, after)) :
    Posted resolution store row after := by
  cases booked_of_book success with
  | single account noHalf inserted =>
      have appended : after.transactions = after.transactions ++ [] :=
        (List.append_nil _).symm
      refine posted_of_inserted account rfl inserted appended ?_
      intro half member
      cases member
  | paired account wanted inserted halved =>
      refine posted_of_inserted account rfl inserted halved.transactions ?_
      intro half member
      rw [List.mem_singleton.mp member]
      exact halved.rawText

/-- A booked row shares the key of its resolution, once that is dated. -/
theorem Posted.sharesKey {resolution : Resolution} {store after : Store}
    {row : TransactionRow} (posted : Posted resolution store row after)
    {date : Date} (dated : resolution.transactionDate = some date) :
    Store.sharesKey resolution row = true := by
  refine sharesKey_iff.mpr ⟨?_, sameNumber_toDouble_of_stored posted.amount,
    posted.accountId⟩
  rw [posted.transactionDate, bookingDate, dated]
  rfl

end Store

end LedgerRules
