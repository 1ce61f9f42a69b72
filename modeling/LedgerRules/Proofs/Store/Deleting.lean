import LedgerRules.Proofs.Store.Pairing

/-!
# Deleting a transaction with its counterpart

The counterpart of a transaction shares its transfer, stands on the account that
the transaction points to, and points back.  Deleting marks every live row of
the transfer.  So it marks the transaction with its counterpart, and no other
row, exactly when the live rows of a transfer are counterparts of each other.  A
booking keeps them so unless it joins a transfer that it does not complete.
-/

namespace LedgerRules

namespace Store

open Resolution

structure IsCounterpart (row other : TransactionRow) : Prop where
  linked : row.transferId.isSome
  together : other.transferId = row.transferId
  there : row.transferTo = some other.accountId
  back : other.transferTo = some row.accountId

instance (row other : TransactionRow) : Decidable (IsCounterpart row other) :=
  decidable_of_iff (row.transferId.isSome ∧ other.transferId = row.transferId ∧
      row.transferTo = some other.accountId ∧
      other.transferTo = some row.accountId)
    ⟨fun ⟨linked, together, there, back⟩ => ⟨linked, together, there, back⟩,
      fun ⟨linked, together, there, back⟩ => ⟨linked, together, there, back⟩⟩

theorem mem_liveTransactions {store : Store} {row : TransactionRow} :
    row ∈ store.liveTransactions ↔
      row ∈ store.transactions ∧ row.isDeleted = false := by
  simp [liveTransactions]

/-- A row once another one was deleted together with its live counterparts. -/
def afterParting (row other : TransactionRow) : TransactionRow :=
  if other.id = row.id ∨
      (other.isDeleted = false ∧ IsCounterpart row other) then
    { other with isDeleted := true }
  else other

/-- Deleting any live row marks it and its live counterparts, and leaves all
other rows. -/
def PartsCounterparts (store : Store) : Prop :=
  ∀ row ∈ store.liveTransactions, store.deleteTransaction row.id =
    .ok { store with transactions := store.transactions.map (afterParting row) }

/-- Two rows that are counterparts if they are live and share a transfer. -/
def Agree (first second : TransactionRow) : Prop :=
  first.isDeleted = false → second.isDeleted = false → first.transferId.isSome →
    second.transferId = first.transferId → IsCounterpart first second

instance (first second : TransactionRow) : Decidable (Agree first second) :=
  inferInstanceAs (Decidable (_ → _ → _ → _ → _))

def Agreeing (rows : List TransactionRow) : Prop :=
  rows.Pairwise Agree

instance (rows : List TransactionRow) : Decidable (Agreeing rows) :=
  inferInstanceAs (Decidable (rows.Pairwise Agree))

theorem Agree.symm {first second : TransactionRow}
    (agree : Agree first second) :
    Agree second first := by
  intro secondLive firstLive linked together
  have both := agree firstLive secondLive (together ▸ linked) together.symm
  exact ⟨linked, together, both.back, both.there⟩

theorem agreeing_append_singleton_iff {rows : List TransactionRow}
    {row : TransactionRow} :
    Agreeing (rows ++ [row]) ↔ Agreeing rows ∧ ∀ other ∈ rows,
      Agree other row := by
  simp [Agreeing, List.pairwise_append]

private theorem afterDeleting_eq_iff {row other : TransactionRow}
    (live : row.isDeleted = false) :
    afterDeleting row other = afterParting row other ↔
      (other.id ≠ row.id → Agree row other) := by
  unfold afterDeleting afterParting
  by_cases same : other.id = row.id
  case pos => simp [marksOf, same]
  case neg =>
    by_cases shared : row.transferId.isSome ∧ other.transferId = row.transferId
    case neg =>
      have unmarked : marksOf row other = false := by
        simpa [marksOf, same] using shared
      have agree : Agree row other := fun _ _ linked together =>
        (shared ⟨linked, together⟩).elim
      have noCounterpart : ¬ IsCounterpart row other := fun both =>
        shared ⟨both.linked, both.together⟩
      simp [unmarked, same, agree, noCounterpart]
    case pos =>
      have marked : marksOf row other = true := by
        simpa [marksOf, same] using shared
      obtain ⟨linked, together⟩ := shared
      cases gone : other.isDeleted with
      | true =>
          have agree : Agree row other := by
            intro _ otherLive
            rw [gone] at otherLive
            cases otherLive
          have unchanged : { other with isDeleted := true } = other := by
            rw [← gone]
          simp [marked, same, agree, unchanged]
      | false =>
          have agree_iff : Agree row other ↔ IsCounterpart row other :=
            ⟨fun agree => agree live gone linked together, fun both _ _ _ _ =>
              both⟩
          have differ : { other with isDeleted := true } ≠ other := by
            intro equal
            have still := congrArg TransactionRow.isDeleted equal
            rw [gone] at still
            cases still
          by_cases both : IsCounterpart row other
          · simp [marked, same, agree_iff, both]
          · simp [marked, same, agree_iff, both, differ]

section Deleting

variable {store : Store} {rows : List TransactionRow} {row : TransactionRow}

theorem deleteTransaction_of_live
    (ids : (store.transactions.map TransactionRow.id).Nodup)
    (member : row ∈ store.transactions) (live : row.isDeleted = false) :
    store.deleteTransaction row.id =
      .ok { store with
        transactions := store.transactions.map (afterDeleting row) } := by
  have found : store.transactions.find? (·.id = row.id) = some row :=
    (find?_key_eq_some_iff ids).mpr ⟨member, rfl⟩
  have here : store.transaction row.id = .ok row := by
    simp [transaction, found, live]
  exact bind_eq_ok_iff.mpr ⟨row, here, rfl⟩

theorem partsCounterparts_iff_agreeing
    (ids : (store.transactions.map TransactionRow.id).Nodup) :
    store.PartsCounterparts ↔ Agreeing store.transactions := by
  have each : ∀ row ∈ store.liveTransactions,
      (store.deleteTransaction row.id = .ok { store with
        transactions := store.transactions.map (afterParting row) } ↔
        ∀ other ∈ store.transactions, other.id ≠ row.id → Agree row other) := by
    intro row member
    obtain ⟨inTable, live⟩ := mem_liveTransactions.mp member
    rw [deleteTransaction_of_live ids inTable live]
    have tables : ∀ left right : List TransactionRow,
        (Except.ok { store with transactions := left } :
          Except StoreFault Store) =
          .ok { store with transactions := right } ↔ left = right := by
      intro left right
      constructor
      · intro equal
        exact congrArg Store.transactions (Except.ok.inj equal)
      · intro equal
        rw [equal]
    rw [tables, List.map_inj_left]
    exact forall₂_congr fun other _ => afterDeleting_eq_iff live
  constructor
  · intro parts
    refine (List.Nodup.of_map _ ids).pairwise_of_forall_ne ?_
    intro first firstMember second secondMember different live
    have own : second.id ≠ first.id := fun same =>
      different (List.inj_on_of_nodup_map ids firstMember secondMember
        same.symm)
    have liveMember := mem_liveTransactions.mpr ⟨firstMember, live⟩
    exact (each first liveMember).mp (parts first liveMember) second
      secondMember own live
  · intro agreeing row member
    refine (each row member).mpr ?_
    intro other otherMember own
    have symmetric : Std.Symm Agree := ⟨fun _ _ => Agree.symm⟩
    refine agreeing.forall (mem_liveTransactions.mp member).1 otherMember ?_
    intro same
    exact own (congrArg TransactionRow.id same.symm)

theorem eq_of_live_afterDeleting {other : TransactionRow}
    (live : (afterDeleting row other).isDeleted = false) :
    afterDeleting row other = other := by
  unfold afterDeleting at live ⊢
  split
  case isTrue marked =>
    rw [if_pos marked] at live
    cases live
  case isFalse => rfl

theorem agreeing_map_afterDeleting (agreeing : Agreeing rows)
    (row : TransactionRow) :
    Agreeing (rows.map (afterDeleting row)) := by
  refine List.pairwise_map.mpr (List.Pairwise.imp ?_ agreeing)
  intro first second agree firstLive secondLive
  have firstSame := eq_of_live_afterDeleting firstLive
  have secondSame := eq_of_live_afterDeleting secondLive
  rw [firstSame] at firstLive ⊢
  rw [secondSame] at secondLive ⊢
  exact agree firstLive secondLive

theorem Paired.agreeing (paired : Paired rows) : Agreeing rows := by
  refine (List.Nodup.of_map _ paired.ids).pairwise_of_forall_ne ?_
  intro first firstMember second secondMember different _ _ linked together
  obtain ⟨transferId, firstLinked⟩ := Option.isSome_iff_exists.mp linked
  have firstHere := mem_rowsOf.mpr ⟨firstMember, firstLinked⟩
  have secondHere := mem_rowsOf.mpr ⟨secondMember, together.trans firstLinked⟩
  rcases paired.halves transferId with none | ⟨one, other, both, halves⟩
  · rw [none] at firstHere
    cases firstHere
  · rw [both, List.mem_pair] at firstHere secondHere
    rcases firstHere with rfl | rfl <;> rcases secondHere with rfl | rfl
    · exact (different rfl).elim
    · exact ⟨linked, together, halves.firstTo, halves.secondTo⟩
    · exact ⟨linked, together, halves.secondTo, halves.firstTo⟩
    · exact (different rfl).elim

end Deleting

/-- A booking completes the transfer of a row: it inserts a single row, and both
point at each other. -/
structure Completes (resolution : Resolution) (other : TransactionRow)
    (store : Store) : Prop where
  alone : store.wantedHalf resolution = none
  there : resolution.transferTo = some other.accountId
  back : other.transferTo = resolution.accountId

/-- A booking joins a transfer, perhaps the one with the empty identifier, of
which there is a live row that it does not complete. -/
def Tangles (resolution : Resolution) (store : Store) : Prop :=
  resolution.transferId.isSome ∧ ∃ other ∈ store.liveTransactions,
    other.transferId = resolution.transferId ∧
    ¬ Completes resolution other store

private theorem otherHalf_of_wantedHalf {known : KnownAccounts}
    {ids after : IdSource} {candidate : Candidate} {resolution : Resolution}
    {request : TransferRequest} {store : Store}
    (resolved : Resolved known ids candidate resolution after)
    (wanted : store.wantedHalf resolution = some request) :
    ∃ transferId destination,
      request = resolution.otherHalf transferId destination ∧
      resolution.transferId = some transferId ∧
      resolution.transferTo = some destination ∧
      (resolution.accountId ≠ some destination ∨
        store.hasTransferHalf transferId destination = false) := by
  cases resolved with
  | single _ _ unrequested _ =>
      obtain ⟨transferId, destination, linked, destined, absent, same⟩ :=
        (wantedHalf_eq_some_iff unrequested).mp wanted
      exact ⟨transferId, destination, same, (nonEmpty?_eq_some_iff.mp linked).1,
        (nonEmpty?_eq_some_iff.mp destined).1, .inr absent⟩
  | @paired destination _ _ destined _ apart _ transferId requested =>
      rw [wantedHalf_of_request requested] at wanted
      cases wanted
      exact ⟨ids.next.1, destination, rfl, transferId,
        (nonEmpty?_eq_some_iff.mp destined).1, .inl apart⟩

/-- A booking of a single row keeps the rows agreeing unless it tangles them. -/
private theorem agreeing_of_single_iff {resolution : Resolution}
    {accountId : String} {date : Date} {duplicateStatus : Option String}
    {ready last : Store} {row : TransactionRow}
    (account : resolution.accountId = some accountId)
    (noHalf : ready.wantedHalf resolution = none)
    (inserted : Inserted (primary resolution accountId date duplicateStatus)
      ready row last) (agreeing : Agreeing ready.transactions) :
    Agreeing last.transactions ↔ ¬ Tangles resolution ready := by
  have onAccount : resolution.accountId = some row.accountId :=
    account.trans inserted.accountId
  have linkedAlike : row.transferId = resolution.transferId :=
    inserted.transferId
  have pointsAlike : row.transferTo = resolution.transferTo :=
    inserted.transferTo
  rw [inserted.transactions, agreeing_append_singleton_iff]
  constructor
  · rintro ⟨_, agree⟩ ⟨linked, other, member, together, incomplete⟩
    obtain ⟨inTable, live⟩ := mem_liveTransactions.mp member
    have both := agree other inTable live inserted.isDeleted
      (together ▸ linked) (linkedAlike.trans together.symm)
    exact incomplete
      ⟨noHalf, pointsAlike ▸ both.back, both.there.trans onAccount.symm⟩
  · intro untangled
    refine ⟨agreeing, ?_⟩
    intro other inTable live _ linked together
    have same : other.transferId = resolution.transferId :=
      together.symm.trans linkedAlike
    by_contra apart
    refine untangled ⟨same ▸ linked, other,
      mem_liveTransactions.mpr ⟨inTable, live⟩, same, ?_⟩
    intro completes
    exact apart ⟨linked, together, completes.back.trans onAccount,
      pointsAlike.trans completes.there⟩

section Pair

variable {resolution : Resolution} {ready : Store} {row half : TransactionRow}
  {transferId destination : String}

private theorem not_tangles_of_agrees
    (linkedTo : resolution.transferId = some transferId)
    (apart : row.accountId ≠ destination ∨
      ready.hasTransferHalf transferId destination = false)
    (rowLive : row.isDeleted = false) (halfLive : half.isDeleted = false)
    (rowLinked : row.transferId = some transferId)
    (rowTo : row.transferTo = some destination)
    (halfLinked : half.transferId = some transferId)
    (onDestination : destination = half.accountId)
    (agree : ∀ other ∈ ready.transactions, Agree other row)
    (agreeHalf : ∀ other ∈ ready.transactions, Agree other half) :
    ¬ Tangles resolution ready := by
  rintro ⟨linked, other, member, together, _⟩
  rw [linkedTo] at together
  obtain ⟨inTable, live⟩ := mem_liveTransactions.mp member
  have otherLinked : other.transferId.isSome := by rw [together]; rfl
  have first := agree other inTable live rowLive otherLinked
    (rowLinked.trans together.symm)
  have second := agreeHalf other inTable live halfLive otherLinked
    (halfLinked.trans together.symm)
  rcases apart with away | absent
  · apply away
    apply Option.some.inj
    rw [onDestination, ← first.there, second.there]
  · have here : other.accountId = destination :=
      Option.some.inj (first.back.symm.trans rowTo)
    have present := List.any_eq_false.mp absent other member
    simp [together, here] at present

private theorem no_live_of_not_tangles {request : TransferRequest}
    (linkedTo : resolution.transferId = some transferId)
    (wanted : ready.wantedHalf resolution = some request)
    (untangled : ¬ Tangles resolution ready) :
    ∀ other ∈ ready.transactions, other.isDeleted = false →
      other.transferId ≠ some transferId := by
  intro other inTable live together
  refine untangled ⟨by rw [linkedTo]; rfl, other,
    mem_liveTransactions.mpr ⟨inTable, live⟩, together.trans linkedTo.symm, ?_⟩
  intro completes
  rw [completes.alone] at wanted
  cases wanted

end Pair

/-- A booking keeps the rows agreeing unless it tangles them. -/
theorem agreeing_of_book_iff {known : KnownAccounts} {ids after : IdSource}
    {candidate : Candidate} {resolution : Resolution}
    {duplicateStatus : Option String} {ready last : Store}
    {row : TransactionRow}
    (resolved : Resolved known ids candidate resolution after)
    (agreeing : Agreeing ready.transactions)
    (success : ready.book resolution duplicateStatus = .ok (row, last)) :
    Agreeing last.transactions ↔ ¬ Tangles resolution ready := by
  cases booked_of_book success with
  | single account noHalf inserted =>
      exact agreeing_of_single_iff account noHalf inserted agreeing
  | @paired _ request half between account wanted inserted halved =>
      obtain ⟨transferId, destination, rfl, linkedTo, pointsTo, apart⟩ :=
        otherHalf_of_wantedHalf resolved wanted
      have onAccount : resolution.accountId = some row.accountId :=
        account.trans inserted.accountId
      have rowLinked : row.transferId = some transferId :=
        inserted.transferId.trans linkedTo
      have rowTo : row.transferTo = some destination :=
        inserted.transferTo.trans pointsTo
      have onDestination : destination = half.accountId :=
        Option.some.inj halved.accountId
      have halfLinked : half.transferId = some transferId := halved.transferId
      have halfTo : half.transferTo = some row.accountId :=
        halved.transferTo.trans onAccount
      rw [halved.transactions, agreeing_append_singleton_iff,
        inserted.transactions, agreeing_append_singleton_iff]
      constructor
      · rintro ⟨⟨_, agree⟩, agreeHalf⟩
        refine not_tangles_of_agrees linkedTo ?_ inserted.isDeleted
          halved.isDeleted rowLinked rowTo halfLinked onDestination agree
          fun other inTable => agreeHalf other (List.mem_append_left _ inTable)
        refine apart.imp_left fun away same => away ?_
        rw [onAccount, same]
      · intro untangled
        have alone := no_live_of_not_tangles linkedTo wanted untangled
        refine ⟨⟨agreeing, ?_⟩, ?_⟩
        · intro other inTable live _ _ together
          exact (alone other inTable live (together.symm.trans rowLinked)).elim
        · intro other member
          rcases List.mem_append.mp member with old | new
          · intro live _ _ together
            exact (alone other old live (together.symm.trans halfLinked)).elim
          · rw [List.mem_singleton.mp new]
            intro _ _ linked together
            exact ⟨linked, together, onDestination ▸ rowTo, halfTo⟩

end Store

end LedgerRules
