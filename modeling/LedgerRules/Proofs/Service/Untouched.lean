import LedgerRules.Proofs.Resolution.Untouched
import LedgerRules.Proofs.Service.Duplicates
import LedgerRules.Proofs.Service.Preview

/-!
# Booking a preview that no rule touched

A body with an empty audit trail is put through the rules a second time, even
when it repeats what a preview has shown.  It is booked as shown unless it stirs
a rule: linking has made a transfer of a candidate that was none, and a rule
matches the transfer only.
-/

namespace LedgerRules

namespace Service

open Payload Resolution Store

/-- The body with what a preview shows for the fields that rules settle, and
with its audit trail. -/
def repeating (shown : Json) : Json → Json
  | .obj fields =>
      .obj (Json.setAll (shownFor shown) ("applied_rules" :: resolvedNames)
      fields)
  | body => body

private theorem read_of_repeating {resolution : Resolution} {fields : Fields}
    {request : CandidateRequest} {today : Date}
    {transaction : TransactionRequest} (sound : resolution.Sound)
    (untouched : resolution.appliedRules = [])
    (reads : CandidateRequest.Reads fields request)
    (accepted : checkBody (TransactionRequest.check .request today)
      (repeating (previewBody resolution) (.obj fields)) =
      .accepted transaction) :
    transaction.candidate = TransactionRequest.dated today
      (settledRequest resolution request) ∧
      transaction.appliedRules.getD [] = [] := by
  obtain ⟨_, isObject, ⟨candidate, candidateReads, dated⟩, trail, _⟩ :=
    TransactionRequest.checkBody_eq_accepted_iff.mp accepted
  cases isObject
  constructor
  · have settledReads : CandidateRequest.Reads
        (Json.setAll (shownFor (previewBody resolution))
        ("applied_rules" :: resolvedNames) fields)
          (settledRequest resolution request) :=
      reads_setAll resolution reads sound.type (by decide) (by decide)
    have same :=
      (CandidateRequest.checkFields_eq_accepted_iff.mpr settledReads).symm.trans
      (CandidateRequest.checkFields_eq_accepted_iff.mpr candidateReads)
    rw [Checked.accepted.inj same, dated]
  · have shown : Json.lookUp "applied_rules"
        (Json.setAll (shownFor (previewBody resolution))
        ("applied_rules" :: resolvedNames) fields) =
          some (.arr (resolution.appliedRules.map AppliedRule.toJson)) :=
      lookUp_settled resolution (by decide)
    have read := @optional_appliedRules_of_lookUp _ _ .request _ shown
    rw [Checked.accepted.inj (trail.symm.trans read), untouched]
    rfl

private theorem booked_of_answered {query : List (String × String)}
    {body answer : Json} {store : Store}
    (created : (createTransaction query body store).result =
      .ok (.answer 201 answer)) :
    ∃ mode transaction row,
      checkBody (TransactionRequest.check .request store.clock.today) body =
          .accepted transaction ∧
        booked mode transaction store =
          .ok (row, (createTransaction query body store).store) ∧
        showTransaction row = .ok answer := by
  cases accepted :
    checkBody (TransactionRequest.check .request store.clock.today) body with
  | accepted transaction =>
      rw [createTransaction_eq accepted] at created ⊢
      cases modeAccepted : checkBookingMode query with
      | rejected problems =>
          rw [modeAccepted] at created
          cases created
      | overflowed =>
          rw [modeAccepted] at created
          cases created
      | accepted mode =>
          rw [modeAccepted] at created
          dsimp only at created ⊢
          cases success : booked mode transaction store with
          | error refusal =>
              rw [success] at created
              exact absurd (failureStatus_le_of_refusal created)
                (by decide : ¬ 400 ≤ 201)
          | ok result =>
              obtain ⟨row, after⟩ := result
              rw [success] at created
              obtain ⟨shown, showing, same⟩ := bind_eq_ok_iff.mp created
              cases same
              exact ⟨mode, transaction, row, rfl, success, showing⟩
  | rejected problems =>
      unfold createTransaction at created
      rw [accepted] at created
      cases modeAccepted : checkBookingMode query <;> rw [modeAccepted]
        at created <;>
        cases created
  | overflowed =>
      unfold createTransaction at created
      rw [accepted] at created
      cases modeAccepted : checkBookingMode query <;> rw [modeAccepted]
        at created <;>
        cases created

/-- A row without applied rules that has what a preview shows. -/
structure IsAsShown (shown : Json) (row : TransactionRow) : Prop where
  accountId : shownFor shown "account_id" = .str row.accountId
  categoryId : shownFor shown "category_id" = .ofText? row.categoryId
  type : shownFor shown "type" = .str row.type
  notes : shownFor shown "notes" = .ofText? row.notes
  transferTo : shownFor shown "transfer_to_account_id" = .ofText? row.transferTo
  transferId : shownFor shown "transfer_id" = .ofText? row.transferId
  appliedRules : row.appliedRules = .null

/-- The preview of a body stirs a rule of the store. -/
def PreviewStirs (store : Store) (body : Json) : Prop :=
  ∃ request resolution after,
    checkBody (CandidateRequest.check .request) body = .accepted request ∧
      resolveStored (candidateOf request) store = .ok (resolution, after) ∧
      Stirs (some store.existingAccountIds) (activeRules store)
        (candidateOf request) resolution

section Booking

variable {store between : Store} {ids : IdSource} {request : CandidateRequest}
  {transaction : TransactionRequest} {resolution again : Resolution}

theorem previewStirs_iff {fields : Fields} {after : Store}
    (reads : CandidateRequest.Reads fields request)
    (resolved : resolveStored (candidateOf request) store =
      .ok (resolution, after)) :
    PreviewStirs store (.obj fields) ↔
      Stirs (some store.existingAccountIds) (activeRules store)
        (candidateOf request)
        resolution := by
  have accepted : checkBody (CandidateRequest.check .request) (.obj fields) =
      .accepted request :=
    checkBody_model_eq_accepted_iff.mpr
      ⟨fields, rfl, CandidateRequest.checkFields_eq_accepted_iff.mpr reads⟩
  constructor
  · rintro ⟨other, otherResolution, otherAfter, otherAccepted, otherResolved,
      stirs⟩
    cases accepted.symm.trans otherAccepted
    cases resolved.symm.trans otherResolved
    exact stirs
  · intro stirs
    exact ⟨request, resolution, after, accepted, resolved, stirs⟩

private theorem resolved_again {known : KnownAccounts}
    {previewIds after : IdSource} {today : Date}
    (settled : Resolved known previewIds (candidateOf request) resolution after)
    (candidate : transaction.candidate = TransactionRequest.dated today
      (settledRequest resolution request))
    (trail : transaction.appliedRules.getD [] = [])
    (success : resolveRequest transaction { store with transferIds := ids } =
      .ok (again, between)) :
    ∃ last, resolve (some store.existingAccountIds) ids (activeRules store)
        { resolution.candidate with
          transactionDate := some (request.transactionDate.getD today) } =
            .ok (again, last) ∧
      { store with transferIds := last } = between := by
  unfold resolveRequest at success
  dsimp only at success
  rw [trail, candidate, candidateOf_settledRequest settled] at success
  exact resolveWith_eq_ok_iff.mp success

theorem isAsShown_iff {duplicateStatus : Option String} {date : Option Date}
    {after : Store} {row : TransactionRow}
    (success : store.book again duplicateStatus = .ok (row, after))
    (kept : again.appliedRules = [] → ∃ issues,
      again = { resolution.accepted date with issues }) :
    IsAsShown (previewBody resolution) row ↔ again.appliedRules = [] := by
  obtain ⟨accountId, _, _, account, inserted, _⟩ :=
    insertsPrimary_of_book success
  constructor
  · intro asShown
    by_contra credited
    have stored : row.appliedRules =
        .arr (again.appliedRules.map AppliedRule.toJson) := by
      rw [inserted.appliedRules]
      exact if_neg (by simpa using credited)
    cases asShown.appliedRules.symm.trans stored
  · intro untouched
    obtain ⟨issues, rfl⟩ := kept untouched
    have shownAccount : resolution.accountId = some row.accountId :=
      account.trans inserted.accountId
    refine ⟨?_, ?_, ?_, ?_, ?_, ?_, inserted.appliedRules⟩
    · change Json.ofText? resolution.accountId = _
      rw [shownAccount]
      rfl
    · rw [inserted.categoryId]
      rfl
    · rw [inserted.type]
      rfl
    · rw [inserted.notes]
      rfl
    · rw [inserted.transferTo]
      rfl
    · rw [inserted.transferId]
      rfl

end Booking

/-- A preview that no rule touched is booked as shown exactly when it stirs no
rule. -/
theorem isAsShown_iff_not_stirs {query : List (String × String)}
    {body shown answer : Json} {store : Store} {ids : IdSource}
    (previewed : (preview body store).result = .ok (.answer 200 shown))
    (untouched : shown.valueAt "applied_rules" = .arr [])
    (created : (createTransaction query (repeating shown body)
      { store with transferIds := ids }).result = .ok (.answer 201 answer)) :
    ∃ row ∈ (createTransaction query (repeating shown body)
        { store with transferIds := ids }).store.transactions,
      (∀ other ∈ store.transactions, other.id ≠ row.id) ∧
      showTransaction row = .ok answer ∧
        (IsAsShown shown row ↔ ¬ PreviewStirs store body) := by
  obtain ⟨fields, request, resolution, after, rfl, reads, resolved, rfl⟩ :=
    preview_eq_ok previewed
  obtain ⟨_, outcome, _⟩ := resolveWith_eq_ok_iff.mp resolved
  have settled := resolved_of_resolve outcome
  have sound : resolution.Sound :=
    sound_of_resolve outcome (mem_of_defaulted_oneOf (by decide) reads.type)
  rw [shownValue_previewBody sound] at untouched created ⊢
  have uncredited : resolution.appliedRules = [] := by
    simpa [previewBody, Json.valueAt, Json.field?, Json.lookUp] using untouched
  obtain ⟨mode, transaction, row, accepted, success, showing⟩ :=
    booked_of_answered created
  obtain ⟨candidate, trail⟩ := read_of_repeating sound uncredited reads accepted
  obtain ⟨again, between, ready, resolving, _, _, replacing, booking⟩ :=
    booked_eq_ok success
  obtain ⟨last, outcomeAgain, rfl⟩ := resolved_again settled candidate trail
    resolving
  obtain ⟨_, _, behind, _, inserted, left⟩ := insertsPrimary_of_book booking
  refine ⟨row, ?_, ?_, showing, ?_⟩
  · rw [left, inserted.transactions]
    simp
  · intro other member
    rcases replaced_eq_ok replacing with rfl | ⟨deleted, _, rfl⟩
    · exact inserted.ownId other member
    · have marked :=
        inserted.ownId _
        (List.mem_map_of_mem (f := afterDeleting deleted) member)
      rwa [id_afterDeleting] at marked
  · rw [previewStirs_iff reads resolved,
      isAsShown_iff booking
        (accepted_of_untouched outcome sound.notes outcomeAgain),
      untouched_again_iff outcome uncredited outcomeAgain]

/-- Two accounts, and a rule that files transfers. -/
def filing : Store :=
  { wallets with
    rules := [{
      id := "rule-1", name := "Moves", isActive := true, priority := 0
      ruleType := "general", logic := "and",
      conditions := .obj [("type", .str "transfer")]
      actions := .obj [("set_category", .str "moves")]
      promptText := none, matchPhone := none,
      transferTo := none, detectedAccount := none
      createdAt := 0 }] }

/-- An expense on an account. -/
def lunchBody : Json :=
  .obj [("description", .str "Lunch"), ("amount", .int 5),
    ("account_id", .str "wallet")]

def shownLunch : Json :=
  .obj [("resolved",
    .obj [("account_id", .str "wallet"), ("category_id", .null),
      ("type", .str "expense"), ("notes", .null),
      ("is_reconciled", .bool false),
      ("transfer_to_account_id", .null), ("transfer_id", .null)]),
    ("original", .obj [("account_id", .str "wallet"), ("category_id", .null)]),
    ("applied_rules", .arr [])]

/-- An expense that carries a destination. -/
def strayBody : Json :=
  .obj [("description", .str "Lunch"), ("amount", .int 5),
    ("account_id", .str "wallet"), ("transfer_to_account_id", .str "savings")]

def shownStray : Json :=
  .obj [("resolved",
    .obj [("account_id", .str "wallet"), ("category_id", .null),
      ("type", .str "transfer"), ("notes", .null),
      ("is_reconciled", .bool false),
      ("transfer_to_account_id", .str "savings"),
      ("transfer_id", .str "transfer-1")]),
    ("original", .obj [("account_id", .str "wallet"), ("category_id", .null)]),
    ("applied_rules", .arr [])]

theorem isAsShown_iff_not_stirs_lunch :
    ∃ answer, (preview lunchBody filing).result = .ok (.answer 200 shownLunch) ∧
      shownLunch.valueAt "applied_rules" = .arr [] ∧
      (createTransaction [] (repeating shownLunch lunchBody)
        { filing with transferIds := ⟨.ofKind "transfer", 1⟩ }).result =
          .ok (.answer 201 answer) ∧
      ∃ row ∈ (createTransaction [] (repeating shownLunch lunchBody)
          { filing with
            transferIds := ⟨.ofKind "transfer", 1⟩ }).store.transactions,
        (∀ other ∈ filing.transactions, other.id ≠ row.id) ∧
        showTransaction row = .ok answer ∧
          IsAsShown shownLunch row ∧
          (IsAsShown shownLunch row ↔ ¬ PreviewStirs filing lunchBody) := by
  have previewed : (preview lunchBody filing).result =
      .ok (.answer 200 shownLunch) := by cbv
  have isCreated : (createTransaction [] (repeating shownLunch lunchBody)
      { filing with transferIds := ⟨.ofKind "transfer", 1⟩ }).isCreated =
        true := by
    decide +kernel
  have stored : (createTransaction [] (repeating shownLunch lunchBody)
      { filing with
        transferIds := ⟨.ofKind "transfer", 1⟩ }).store.transactions.map
        (fun row => ((row.accountId, row.type),
          [row.categoryId, row.notes, row.transferTo, row.transferId],
          decide (row.appliedRules = .null))) =
      [(("wallet", "expense"), [none, none, none, none], true)] := by
    decide +kernel
  obtain ⟨answer, created⟩ := Outcome.result_of_isCreated isCreated
  obtain ⟨row, member, fresh, showing, same⟩ :=
    isAsShown_iff_not_stirs previewed rfl created
  have columns := List.mem_map_of_mem (f := fun row : TransactionRow =>
    ((row.accountId, row.type),
      [row.categoryId, row.notes, row.transferTo, row.transferId],
      decide (row.appliedRules = .null))) member
  rw [stored, List.mem_singleton] at columns
  simp only [Prod.mk.injEq, List.cons.injEq, and_true] at columns
  obtain ⟨⟨accountId, type⟩, ⟨categoryId, notes, transferTo, transferId⟩,
    trail⟩ := columns
  have asShown : IsAsShown shownLunch row := {
    accountId := by rw [accountId]; rfl
    categoryId := by rw [categoryId]; rfl
    type := by rw [type]; rfl
    notes := by rw [notes]; rfl
    transferTo := by rw [transferTo]; rfl
    transferId := by rw [transferId]; rfl
    appliedRules := of_decide_eq_true trail }
  exact ⟨answer, previewed, rfl, created, row, member, fresh, showing, asShown,
    same⟩

/-- The rule files the transfer that linking has made of an expense, and no row
is as shown. -/
theorem not_isAsShown_stray :
    (preview strayBody filing).result = .ok (.answer 200 shownStray) ∧
      shownStray.valueAt "applied_rules" = .arr [] ∧
      ∃ answer, (createTransaction [] (repeating shownStray strayBody)
          { filing with transferIds := ⟨.ofKind "transfer", 1⟩ }).result =
            .ok (.answer 201 answer) ∧
        ∀ row ∈ (createTransaction [] (repeating shownStray strayBody)
            { filing with
              transferIds := ⟨.ofKind "transfer", 1⟩ }).store.transactions,
          ¬ IsAsShown shownStray row := by
  have booked : (createTransaction [] (repeating shownStray strayBody)
      { filing with
        transferIds := ⟨.ofKind "transfer", 1⟩ }).store.transactions.map
        (fun row => (row.accountId, row.categoryId)) =
      [("wallet", some "moves"), ("savings", none)] := by
    decide +kernel
  have isCreated : (createTransaction [] (repeating shownStray strayBody)
      { filing with transferIds := ⟨.ofKind "transfer", 1⟩ }).isCreated =
        true := by
    decide +kernel
  obtain ⟨answer, created⟩ := Outcome.result_of_isCreated isCreated
  refine ⟨by cbv, rfl, answer, created, ?_⟩
  intro row member asShown
  have pair :=
    List.mem_map_of_mem (f := fun row => (row.accountId, row.categoryId)) member
  have account : Json.str "wallet" = .str row.accountId := asShown.accountId
  have category : Json.null = .ofText? row.categoryId := asShown.categoryId
  cases none : row.categoryId with
  | some categoryId =>
      rw [none] at category
      cases category
  | none =>
      rw [booked, none, ← Json.str.inj account] at pair
      simp at pair

end Service

end LedgerRules
