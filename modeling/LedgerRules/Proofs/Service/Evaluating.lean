import LedgerRules.Proofs.Payload.Written
import LedgerRules.Proofs.Resolution.Answering
import LedgerRules.Proofs.Service.Failing

/-!
# Evaluating requested rules

A rule that is requested and stored compiles whenever it is read back, to the
conditions and actions that were asked for.  It can be evaluated for every
finite amount that does not bring it to a range with a bound that is no number,
which is accepted as any other range.
-/

namespace LedgerRules

namespace Condition

private theorem exists_breaks_of_breakInOrder {candidate : Candidate}
    {unsettled : Bool} {conditions : List Condition}
    (breaks : BreakInOrder candidate unsettled conditions) :
    ∃ condition ∈ conditions, Breaks candidate.amount condition := by
  induction breaks with
  | @here condition rest breaks => exact ⟨condition, List.mem_cons_self, breaks⟩
  | @later condition rest _ _ induction =>
      obtain ⟨other, member, breaks⟩ := induction
      exact ⟨other, List.mem_cons_of_mem condition member, breaks⟩

end Condition

theorem Decimal.isNaN_ofDouble {double : Double} :
    (ofDouble double).isNaN = true ↔ double = .nan := by
  cases double with
  | finite negative significand exponent =>
      simp only [ofDouble, reduceCtorEq, iff_false]
      split
      · simp [isNaN]
      · split <;> simp [isNaN]
  | infinite negative => simp [ofDouble, isNaN]
  | nan => simp [ofDouble, isNaN]

namespace Payload

/-- A range of amounts with a bound that is no number. -/
def Conditions.BoundIsNaN (conditions : Conditions) : Prop :=
  ∃ range, conditions.amountBetween = some range ∧
    (range.1 = .nan ∨ range.2 = .nan)

instance (conditions : Conditions) : Decidable conditions.BoundIsNaN :=
  match given : conditions.amountBetween with
  | none => .isFalse (by
      rintro ⟨range, present, _⟩
      rw [given] at present
      cases present)
  | some range =>
      decidable_of_iff (range.1 = .nan ∨ range.2 = .nan) (by
        constructor
        · intro notANumber
          exact ⟨range, given, notANumber⟩
        · rintro ⟨other, present, notANumber⟩
          rw [given] at present
          cases present
          exact notANumber)

theorem Conditions.boundIsNaN_of_breaks {conditions : Conditions}
    {amount : Decimal} {condition : Condition}
    (member : condition ∈ conditions.compile)
    (breaks : condition.Breaks amount) : conditions.BoundIsNaN := by
  cases mem_compile_iff.mp member with
  | @amountBetween range given =>
      refine ⟨range, given, ?_⟩
      cases breaks with
      | minimum notANumber => exact .inl (Decimal.isNaN_ofDouble.mp notANumber)
      | maximum _ notANumber =>
          exact .inr (Decimal.isNaN_ofDouble.mp notANumber)
  | _ => cases breaks

end Payload

namespace Service

open Store (NewRule)

theorem exists_kind_of_mem {ruleType : String}
    (member : ruleType ∈ Payload.ruleTypes) :
    ∃ kind, RuleKind.ofText? ruleType = some kind := by
  apply Option.isSome_iff_exists.mp
  revert ruleType
  decide

theorem exists_logic_of_mem {logic : String} (member : logic ∈ Payload.logics) :
    ∃ found, Logic.ofText? logic = some found := by
  apply Option.isSome_iff_exists.mp
  revert logic
  decide

/-- The conditions and actions of a rule are those of a request. -/
structure Compiles (asked : Payload.RuleRequest) (rule : Rule) : Prop where
  conditions : rule.conditions = asked.conditions.compile
  actions : rule.actions = asked.actions.compile asked.transferTo

theorem compile_of_fills {asked : Payload.RuleRequest} {row : RuleRow}
    (lawful : asked.Lawful)
    (fills : Store.Fills (RuleSession.withDetectedAccount (newRule asked))
      row) :
    ∃ rule, row.stored.compile = .ok rule ∧ Compiles asked rule := by
  obtain ⟨kind, isKind⟩ := exists_kind_of_mem lawful.ruleType
  obtain ⟨logic, isLogic⟩ := exists_logic_of_mem lawful.logic
  have ruleType : row.stored.ruleType = asked.ruleType := fills.ruleType
  have sameLogic : row.stored.logic = asked.logic := fills.logic
  have conditions : row.stored.conditions =
      .obj (Payload.withoutNulls asked.conditions.dump) := fills.conditions
  have actions : row.stored.actions =
      .obj (Payload.withoutNulls asked.actions.dump) :=
    fills.actions
  have transferTo : row.stored.transferTo = asked.transferTo := fills.transferTo
  unfold StoredRule.compile
  simp only [ruleType, sameLogic, isKind, isLogic, conditions, actions,
    transferTo, StoredRule.payload_obj,
    Payload.Conditions.check_dump lawful.conditions,
      Payload.Actions.check_dump lawful.actions]
  exact ⟨_, rfl, rfl, rfl⟩

theorem boundIsNaN_of_breaks {asked : Payload.RuleRequest} {rule : Rule}
    (compiles : Compiles asked rule) {candidate : Candidate}
    (breaks : rule.Breaks candidate) :
    asked.conditions.BoundIsNaN := by
  obtain ⟨condition, member, breaking⟩ :=
    Condition.exists_breaks_of_breakInOrder breaks
  rw [compiles.conditions] at member
  exact Payload.Conditions.boundIsNaN_of_breaks member breaking

/-- A request for a rule. -/
structure Request.IsCreation (request : Request) : Prop where
  path : Route.ofPath? request.path = some .rules
  method : request.method = "POST"

/-- The rule that a request asks for, when its body is accepted. -/
def Request.AsksRule (request : Request) (asked : Payload.RuleRequest) : Prop :=
  ∃ body, readBody request.body = .value body ∧
    checkBody (Payload.RuleRequest.check .request) body = .accepted asked

theorem not_succeeds_of_failure {store : Store} {response : Response}
    (status : failureStatus ≤ response.status) :
    ¬ (Outcome.unchanged store response).Succeeds := by
  rintro ⟨_, ⟨⟩, _, below⟩
  unfold failureStatus at status
  omega

theorem inserted_of_succeeds {request : Request} (creation : request.IsCreation)
    {store : Store} (success : (respond request store).Succeeds) :
    ∃ asked row, request.AsksRule asked ∧
      Store.Fills (RuleSession.withDetectedAccount (newRule asked)) row ∧
      (respond request store).store.rules = store.rules ++ [row] := by
  have handled : handle request store =
      withBody request.body store fun body => createRule body store := by
    simp [handle, creation.path, creation.method]
  have rules := (sends_respond request store).tables.rules
  replace success := (succeeds_respond_iff.mp success).1
  rw [handled] at success
  rw [handled] at rules
  unfold withBody at success rules
  cases read : readBody request.body with
  | broken position =>
      rw [read] at success
      exact (not_succeeds_of_failure (failureStatus_le_invalid _) success).elim
  | unreadable =>
      rw [read] at success
      refine (not_succeeds_of_failure ?_ success).elim
      show failureStatus ≤ 400
      exact Nat.le_refl 400
  | value body =>
      simp only [read] at success rules
      have created := created_createRule body store
      generalize createRule body store = outcome at success rules created
      cases created with
      | refused status => exact (not_succeeds_of_failure status success).elim
      | failed fault =>
          obtain ⟨response, ⟨⟩, _⟩ := success
      | @inserted asked rows after _ accepted inserting =>
          have inserted := Store.insertedRules_of_insertRules inserting
          obtain ⟨row, _, fills, none, rfl⟩ :=
            List.forall₂_cons_left_iff.mp inserted.filled
          cases none
          exact ⟨asked, row, ⟨body, read, accepted⟩, fills,
            rules.trans inserted.rules⟩

/-- A rule that is requested and stored stays in the table and compiles to what
was asked for.  It decides every finite amount unless it comes to a range that
it cannot ask, and then a bound that was asked for is no number. -/
theorem decides_iff_of_created {request : Request}
    (creation : request.IsCreation) {store : Store}
    (success : (respond request store).Succeeds) (later : List Request) :
    ∃ asked row rule, request.AsksRule asked ∧
      (respond request store).store.rules = store.rules ++ [row] ∧
      row ∈ (respondAll later (respond request store).store).rules ∧
      row.stored.compile = .ok rule ∧ Compiles asked rule ∧
      ∀ candidate : Candidate, candidate.amount.isFinite = true →
        ((∃ answer, Condition.hold rule.logic rule.conditions candidate =
          .ok answer) ↔
            ¬ rule.Breaks candidate) ∧
          (rule.Breaks candidate → asked.conditions.BoundIsNaN) := by
  obtain ⟨asked, row, asks, fills, stored⟩ :=
    inserted_of_succeeds creation success
  obtain ⟨body, read, accepted⟩ := asks
  obtain ⟨rule, compiled, compiles⟩ :=
    compile_of_fills (Payload.RuleRequest.lawful_of_checkBody accepted) fills
  have kept : row ∈ (respondAll later (respond request store).store).rules := by
    apply (rules_prefix_respondAll later _).subset
    rw [stored]
    exact List.mem_append_right _ (List.mem_singleton.mpr rfl)
  refine ⟨asked, row, rule, ⟨body, read, accepted⟩, stored, kept, compiled,
    compiles, ?_⟩
  intro candidate finite
  exact ⟨Rule.decides_iff_not_breaks finite
    (StoredRule.quiet_of_compile compiled), boundIsNaN_of_breaks compiles⟩

/-- A request for a rule whose least amount is no number. -/
def boundlessRule : Request where
  method := "POST"
  path := "/api/v1/automation-rules"
  body := some
    ("\x7b\"name\": \"Boundless\", \"conditions\": \x7b\"amount_between\": " ++
    "[\"nan\", 5]\x7d, \"actions\": \x7b\"set_category\": \"food\"\x7d\x7d")

/-- What evaluating the stored rules on a candidate fails with. -/
def evaluationFaults (candidate : Candidate) (store : Store) :
    List (Option Incomparable) :=
  store.rules.filterMap fun row =>
    match row.stored.compile with
    | .ok rule =>
        some (fault? (Condition.hold rule.logic rule.conditions candidate))
    | .error _ => none

/-- The rule is stored and compiles, and it cannot be evaluated for a finite
amount. -/
theorem undecided_boundlessRule :
    boundlessRule.IsCreation ∧ (respond boundlessRule wallets).Succeeds ∧
      ∃ row rule, (respond boundlessRule wallets).store.rules = [row] ∧
        row.stored.compile = .ok rule ∧
        Resolution.candidateOfFive.amount.isFinite = true ∧
        Condition.hold rule.logic rule.conditions Resolution.candidateOfFive =
          .error {} := by
  have creation : boundlessRule.IsCreation := ⟨by decide +kernel, rfl⟩
  have success : (respond boundlessRule wallets).Succeeds := by decide +kernel
  have faults : evaluationFaults Resolution.candidateOfFive
      (respond boundlessRule wallets).store = [some {}] := by
    decide +kernel
  obtain ⟨asked, row, asks, fills, stored⟩ :=
    inserted_of_succeeds creation success
  obtain ⟨body, _, accepted⟩ := asks
  obtain ⟨rule, compiled, _⟩ :=
    compile_of_fills (Payload.RuleRequest.lawful_of_checkBody accepted) fills
  have alone : (respond boundlessRule wallets).store.rules = [row] := stored
  refine ⟨creation, success, row, rule, alone, compiled, rfl, ?_⟩
  simp only [evaluationFaults, alone, List.filterMap_cons, compiled,
    List.filterMap_nil, List.cons.injEq, and_true] at faults
  exact eq_error_of_fault? faults

/-- A request for a rule of which either condition is enough, the first of them
being a least amount. -/
def lunchRule : Request where
  method := "POST"
  path := "/api/v1/automation-rules"
  body := some
    ("\x7b\"name\": \"Lunch\", \"condition_logic\": \"or\", \"conditions\": " ++
    "\x7b\"amount_min\": \"7.5\", \"description_contains\": [\"lunch\"]\x7d\x7d")

instance (request : Request) (holds : Payload.RuleRequest → Prop)
    [DecidablePred holds] :
    Decidable (∀ asked, request.AsksRule asked → holds asked) :=
  match read : readBody request.body with
  | .value body =>
      match checked : checkBody (Payload.RuleRequest.check .request) body with
      | .accepted asked =>
          decidable_of_iff (holds asked) (by
            constructor
            · rintro holding other ⟨_, readOther, accepted⟩
              rw [read] at readOther
              cases readOther
              rw [checked] at accepted
              cases accepted
              exact holding
            · intro all
              exact all asked ⟨body, read, checked⟩)
      | .rejected _ | .overflowed => .isTrue (by
          rintro asked ⟨_, readOther, accepted⟩
          rw [read] at readOther
          cases readOther
          rw [checked] at accepted
          cases accepted)
  | .broken _ | .unreadable => .isTrue (by
      rintro asked ⟨_, readOther, _⟩
      rw [read] at readOther
      cases readOther)

theorem decides_iff_of_created_lunchRule :
    lunchRule.IsCreation ∧ (respond lunchRule wallets).Succeeds ∧
      ∃ row rule, row ∈ (respondAll [walletRule, boundlessRule]
          (respond lunchRule wallets).store).rules ∧
        row.stored.compile = .ok rule ∧
        ∃ answer, Condition.hold rule.logic rule.conditions
          Resolution.candidateOfFive =
          .ok answer := by
  have creation : lunchRule.IsCreation := ⟨by decide +kernel, rfl⟩
  have success : (respond lunchRule wallets).Succeeds := by decide +kernel
  have bounded : ∀ asked, lunchRule.AsksRule asked →
      ¬ asked.conditions.BoundIsNaN := by
    decide +kernel
  obtain ⟨asked, row, rule, asks, _, kept, compiled, _, decides⟩ :=
    decides_iff_of_created creation success [walletRule, boundlessRule]
  obtain ⟨decided, nanBound⟩ := decides Resolution.candidateOfFive rfl
  refine ⟨creation, success, row, rule, kept, compiled, decided.mpr ?_⟩
  intro breaks
  exact bounded asked asks (nanBound breaks)

end Service

end LedgerRules
