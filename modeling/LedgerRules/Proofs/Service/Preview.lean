import LedgerRules.Proofs.Payload.Accepting
import LedgerRules.Proofs.Resolution.Again
import LedgerRules.Proofs.Service.Relinking

/-!
# Booking an accepted preview

A preview resolves a candidate with the stored rules and books nothing.  Booking
the body that accepts it resolves the settled candidate without rules, and takes
the applied rules and the mark of reconciliation from the body.  Both ways to
the table insert the same rows, up to the identifier of a new transfer.
-/

namespace LedgerRules

namespace Service

open Payload Resolution Store

/-- A preview that is answered shows a resolution of the candidate that it
reads. -/
theorem preview_eq_ok {body shown : Json} {store : Store} {status : Nat}
    (answered : (preview body store).result = .ok (.answer status shown)) :
    ∃ fields request resolution after, body = .obj fields ∧
      CandidateRequest.Reads fields request ∧
      resolveStored (candidateOf request) store = .ok (resolution, after) ∧
      shown = shownValue (previewBody resolution) := by
  unfold preview at answered
  split at answered
  case h_1 => cases answered
  case h_2 => cases answered
  case h_3 request accepted =>
    obtain ⟨fields, rfl, checked⟩ := checkBody_model_eq_accepted_iff.mp accepted
    split at answered
    case h_1 => cases answered
    case h_2 resolution after resolved =>
      cases answered
      exact ⟨fields, request, resolution, after, rfl,
        CandidateRequest.checkFields_eq_accepted_iff.mp checked, resolved, rfl⟩

@[simp] theorem shownValue_ofText? (value? : Option String) :
    shownValue (.ofText? value?) = .ofText? value? := by
  cases value? <;> rfl

theorem shownFields_credits (actions : List Action) :
    shownFields (actions.map fun action => (action.key, action.credit)) =
      actions.map fun action => (action.key, action.credit) := by
  induction actions with
  | nil => rfl
  | cons action rest induction =>
      rw [List.map_cons, shownFields, induction]
      cases action <;> rfl

theorem shownItems_map {applied : List AppliedRule}
    (credited : ∀ entry ∈ applied, ∃ actions : List Action,
      entry.actions = actions.map fun action => (action.key, action.credit)) :
    shownItems (applied.map AppliedRule.toJson) =
      applied.map AppliedRule.toJson := by
  induction applied with
  | nil => rfl
  | cons entry rest induction =>
      obtain ⟨actions, same⟩ := credited entry List.mem_cons_self
      have later := induction fun other member =>
        credited other (List.mem_cons_of_mem entry member)
      simp [shownItems, shownValue, shownFields, AppliedRule.toJson, same,
        shownFields_credits, later]

theorem shownValue_previewBody {resolution : Resolution}
    (sound : resolution.Sound) :
    shownValue (previewBody resolution) = previewBody resolution := by
  simp [previewBody, shownValue, shownFields, shownItems_map sound.applied]

/-- A body that carries no outcome of a preview: no applied rules, and no mark
of reconciliation that is not a truth value. -/
structure CarriesNoTrail (body : Json) : Prop where
  appliedRules : body.valueAt "applied_rules" = .null ∨
    body.valueAt "applied_rules" = .arr []
  isReconciled : body.field? "is_reconciled" = none ∨
    ∃ flag, body.field? "is_reconciled" = some (.bool flag)

private theorem checkBody_of_carriesNoTrail {fields : Fields}
    {request : CandidateRequest} (reads : CandidateRequest.Reads fields request)
    (bare : CarriesNoTrail (.obj fields)) (today : Date) :
    ∃ appliedRules isReconciled, appliedRules.getD [] = [] ∧
      checkBody (TransactionRequest.check .request today) (.obj fields) =
        .accepted ⟨TransactionRequest.dated today request, appliedRules,
          isReconciled⟩ := by
  have trail : ∃ appliedRules, appliedRules.getD [] = [] ∧
      optional fields "applied_rules" (list (appliedRule .request)) =
        .accepted appliedRules := by
    rcases bare.appliedRules with absent | empty
    · exact ⟨none, rfl, optional_eq_none_of_valueAt absent _⟩
    · refine ⟨some [], rfl, ?_⟩
      change (Json.lookUp "applied_rules" fields).getD .null = .arr [] at empty
      cases found : Json.lookUp "applied_rules" fields with
      | none =>
          rw [found] at empty
          cases empty
      | some value =>
          rw [found] at empty
          cases empty
          have read := @optional_appliedRules_of_lookUp _ _ .request [] found
          exact read
  have mark : ∃ isReconciled, defaulted fields "is_reconciled" false bool =
      .accepted isReconciled := by
    rcases bare.isReconciled with absent | ⟨flag, found⟩
    · refine ⟨false, ?_⟩
      rw [defaulted, show Json.lookUp "is_reconciled" fields = none from absent]
    · exact ⟨flag, defaulted_bool_of_lookUp found⟩
  obtain ⟨appliedRules, none, trailRead⟩ := trail
  obtain ⟨isReconciled, markRead⟩ := mark
  refine ⟨appliedRules, isReconciled, none, ?_⟩
  exact TransactionRequest.checkBody_eq_accepted_iff.mpr
    ⟨fields, rfl, ⟨request, reads, rfl⟩, trailRead, markRead⟩

/-- The identifier of one transfer replaced by another one. -/
def substitute (old new : String) (transferId? : Option String) :
    Option String :=
  if transferId? = some old then some new else transferId?

/-- The resolution of a booking that accepts a preview. -/
def acceptedWithTrail (resolution : Resolution) (date : Option Date) :
    Resolution :=
  { resolution.accepted date with
    appliedRules := resolution.appliedRules
    isReconciled := resolution.isReconciled }

private theorem relinks_of_again {ids otherIds : IdSource} {date : Option Date}
    {resolution direct : Resolution}
    (again : Again ids otherIds date resolution direct) :
    ∃ rename, (rename = id ∨ rename = substitute ids.next.1 otherIds.next.1) ∧
      Relinks rename (acceptedWithTrail resolution date) direct ∧
      ∀ ready : Store, Unused ids.next.1 ready.transactions →
        HalvesAlike rename ready (acceptedWithTrail resolution date)
          direct := by
  cases again with
  | same unrequested =>
      refine ⟨id, .inl rfl, rfl, ?_⟩
      intro ready _ bookedOn
      have wanted :
          ready.wantedHalf { resolution with transactionDate := date } =
          ready.wantedHalf (acceptedWithTrail resolution date) := by
        unfold wantedHalf
        dsimp only
        rw [unrequested]
        rfl
      rw [wanted, Option.map_map]
      rfl
  | @relinked destination destined linked =>
      -- The linker asks for the other half on one side; on the other side it is
      -- wanted
      -- because no row of the preview's transfer is stored yet.
      have renamed : substitute ids.next.1 otherIds.next.1 (some ids.next.1) =
          some otherIds.next.1 := if_pos rfl
      refine ⟨_, .inr rfl, ?_, ?_⟩
      · simp only [Relinks, acceptedWithTrail, accepted, linked, renamed]
      · intro ready unused bookedOn
        have wanted : ready.wantedHalf (acceptedWithTrail resolution date) =
            some ((acceptedWithTrail resolution date).otherHalf ids.next.1
              destination) := by
          apply (wantedHalf_eq_some_iff rfl).mpr
          refine ⟨ids.next.1, destination, ?_, destined, ?_, rfl⟩
          · change nonEmpty? resolution.transferId = _
            rw [linked]
            exact ids.nonEmpty?_next
          · exact hasTransferHalf_of_unused unused destination
        rw [wanted, wantedHalf_of_request rfl]
        simp only [Option.map_some, Option.some.injEq, Store.otherHalf,
          NewTransaction.relinked, Resolution.otherHalf, renamed]
        rfl

private theorem resolveRequest_direct {request : CandidateRequest}
    {store after : Store} {resolution : Resolution}
    (resolved : resolveStored (candidateOf request) store =
      .ok (resolution, after))
    {appliedRules : Option (List AppliedRule)}
    (none : appliedRules.getD [] = []) (isReconciled : Bool) (today : Date)
    (ids : IdSource) :
    ∃ direct last,
      resolveRequest ⟨TransactionRequest.dated today request, appliedRules,
        isReconciled⟩
          { store with transferIds := ids } =
        .ok (direct, { store with transferIds := last }) ∧
      Again store.transferIds ids (some (request.transactionDate.getD today))
        resolution
        direct := by
  obtain ⟨_, outcome, _⟩ := resolveWith_eq_ok_iff.mp resolved
  obtain ⟨direct, last, again, related⟩ :=
    again_of_resolve outcome (some (request.transactionDate.getD today)) ids
  refine ⟨direct, last, ?_, related⟩
  unfold resolveRequest
  rw [none]
  exact resolveWith_eq_ok_iff.mpr ⟨last, again, rfl⟩

/-- A settled request is a resolution taken for a candidate, with the date
filled in. -/
theorem candidateOf_settledRequest {known : KnownAccounts}
    {ids after : IdSource} {request : CandidateRequest}
    {resolution : Resolution}
    (settled : Resolved known ids (candidateOf request) resolution after)
    (today : Date) :
    candidateOf (TransactionRequest.dated today
      (settledRequest resolution request)) =
      { resolution.candidate with
        transactionDate := some (request.transactionDate.getD today) } := by
  obtain ⟨description, amount, source, rawText, _, time⟩ := settled.carries
  unfold candidate
  rw [description, amount, source, rawText, time]
  rfl

private theorem resolveRequest_accepting {request : CandidateRequest}
    {store after : Store} {resolution : Resolution}
    (resolved : resolveStored (candidateOf request) store =
      .ok (resolution, after))
    (notes : resolution.notes ≠ some "")
    (credited : resolution.appliedRules ≠ []) (today : Date) (ids : IdSource) :
    resolveRequest
      ⟨TransactionRequest.dated today (settledRequest resolution request),
          some resolution.appliedRules, resolution.isReconciled⟩
        { store with transferIds := ids } =
      .ok (acceptedWithTrail resolution
        (some (request.transactionDate.getD today)),
        { store with transferIds := ids }) := by
  obtain ⟨_, outcome, _⟩ := resolveWith_eq_ok_iff.mp resolved
  have settled := resolved_of_resolve outcome
  have carried := candidateOf_settledRequest settled today
  have again := resolve_nil_of_resolved settled notes
    (some (request.transactionDate.getD today)) ids
  have direct : resolveWith [] (candidateOf (TransactionRequest.dated today
      (settledRequest resolution request))) { store with transferIds := ids } =
      .ok (resolution.accepted (some (request.transactionDate.getD today)),
        { store with transferIds := ids }) := by
    rw [carried]
    exact resolveWith_eq_ok_iff.mpr ⟨ids, again, rfl⟩
  unfold resolveRequest
  cases trail : resolution.appliedRules with
  | nil => exact (credited trail).elim
  | cons first rest =>
      simp only [Option.getD_some, direct, bind, Except.bind, pure, Except.pure,
        acceptedWithTrail, trail]

/-- Booking a body that accepts a preview agrees with booking the previewed
body. -/
theorem agree_of_preview {body shown : Json} {store : Store}
    (previewed : (preview body store).result = .ok (.answer 200 shown))
    (credited : shown.valueAt "applied_rules" ≠ .arr [])
    (bare : CarriesNoTrail body) (fresh : FreshTransfer store)
    (query : List (String × String)) (acceptedIds directIds : IdSource) :
    ∃ rename,
      (rename = id ∨
        rename = substitute store.transferIds.next.1 directIds.next.1) ∧
        Agree rename store
          (createTransaction query (accepting shown body)
            { store with transferIds := acceptedIds })
          (createTransaction query body
            { store with transferIds := directIds }) := by
  obtain ⟨fields, request, resolution, after, rfl, reads, resolved, rfl⟩ :=
    preview_eq_ok previewed
  obtain ⟨_, outcome, _⟩ := resolveWith_eq_ok_iff.mp resolved
  have sound : resolution.Sound :=
    sound_of_resolve outcome (mem_of_defaulted_oneOf (by decide) reads.type)
  rw [shownValue_previewBody sound] at credited ⊢
  have listed : resolution.appliedRules ≠ [] := by
    intro empty
    apply credited
    simp [previewBody, Json.valueAt, Json.field?, Json.lookUp, empty]
  obtain ⟨appliedRules, isReconciled, none, directRead⟩ :=
    checkBody_of_carriesNoTrail reads bare store.clock.today
  obtain ⟨direct, last, directResolved, again⟩ :=
    resolveRequest_direct resolved none isReconciled store.clock.today directIds
  have acceptedResolved := resolveRequest_accepting resolved sound.notes listed
    store.clock.today acceptedIds
  have acceptedRead := checkBody_accepting resolution reads sound.type
    store.clock.today
  obtain ⟨rename, either, relinks, halves⟩ := relinks_of_again again
  refine ⟨rename, either, ?_⟩
  rw [@createTransaction_eq query _ { store with transferIds := acceptedIds } _
    acceptedRead, @createTransaction_eq query _
      { store with transferIds := directIds } _ directRead]
  cases checkBookingMode query with
  | rejected problems => exact agree_of_same rfl rfl rfl
  | overflowed => exact agree_of_same rfl rfl rfl
  | accepted mode =>
      have wanted : ∀ ready,
          replaced mode { store with transferIds := acceptedIds } = .ok ready →
          HalvesAlike rename ready (acceptedWithTrail resolution
            (some (request.transactionDate.getD store.clock.today)))
              direct := by
        intro ready replacing
        exact halves ready (unused_replaced replacing fresh)
      obtain ⟨before, sameIds, alike⟩ := alike_bookResolved relinks wanted last
      dsimp only
      rw [booked_eq, booked_eq, acceptedResolved, directResolved]
      exact agree_bookingOutcome sameIds alike rfl rfl

/-- Two accounts, and a rule that sets money aside. -/
def household : Store :=
  { wallets with
    rules := [{
      id := "rule-1", name := "Savings", isActive := true, priority := 1
      ruleType := "general", logic := "and", conditions := .obj []
      actions := .obj
        [("set_category", .str "home"), ("link_to_account", .str "savings"),
          ("auto_reconcile", .bool true)]
      promptText := none, matchPhone := none,
      transferTo := none, detectedAccount := none
      createdAt := 0 }] }

/-- A candidate that the rule applies to. -/
def settingAside : Json :=
  .obj [("description", .str "Set aside"), ("amount", .int 5),
    ("account_id", .str "wallet")]

def shownAside : Json :=
  .obj [("resolved",
    .obj [("account_id", .str "wallet"), ("category_id", .str "home"),
      ("type", .str "transfer"), ("notes", .null),
      ("is_reconciled", .bool true),
      ("transfer_to_account_id", .str "savings"),
      ("transfer_id", .str "transfer-1")]),
    ("original", .obj [("account_id", .str "wallet"), ("category_id", .null)]),
    ("applied_rules",
      .arr [.obj [("rule_id", .str "rule-1"), ("rule_name", .str "Savings"),
        ("actions", .obj
        [("set_category", .str "home"), ("link_to_account", .str "savings"),
          ("auto_reconcile", .bool true)])]])]

theorem agree_of_preview_settingAside :
    (preview settingAside household).result = .ok (.answer 200 shownAside) ∧
      shownAside.valueAt "applied_rules" ≠ .arr [] ∧
      CarriesNoTrail settingAside ∧
      FreshTransfer household ∧
      ∃ rename, (rename = id ∨ rename = substitute "transfer-1" "transfer-8") ∧
        Agree rename household
          (createTransaction [] (accepting shownAside settingAside)
            { household with transferIds := ⟨.ofKind "transfer", 1⟩ })
          (createTransaction [] settingAside
            { household with transferIds := ⟨.ofKind "transfer", 7⟩ }) := by
  have previewed : (preview settingAside household).result =
      .ok (.answer 200 shownAside) := by
    cbv
  have credited : shownAside.valueAt "applied_rules" ≠ .arr [] := by
    simp [shownAside, Json.valueAt, Json.field?, Json.lookUp]
  have bare : CarriesNoTrail settingAside := ⟨.inl rfl, .inl rfl⟩
  have fresh : FreshTransfer household := by decide
  exact ⟨previewed, credited, bare, fresh,
    agree_of_preview previewed credited bare fresh [] ⟨.ofKind "transfer", 1⟩
      ⟨.ofKind "transfer", 7⟩⟩

end Service

end LedgerRules
