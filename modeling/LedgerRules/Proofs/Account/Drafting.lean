import LedgerRules.Proofs.Account.Coverage

/-!
# Drafts of detection rules

Drafts are made where an account that qualifies occurs with an identifier that
none before it had, and no rule covers.
-/

namespace LedgerRules

/-- The account that a draft sends bank text to. -/
def RuleDraft.account? (draft : RuleDraft) : Option String :=
  match draft.actions.field? "set_account" with
  | some (.str accountId) => some accountId
  | _ => none

namespace Coverage

/-- A rule that detects accounts, whether it is active or not, sets a value that
counts as present and reads as an identifier. -/
structure Covers (rule : CoveringRule) (accountId : String) : Prop where
  detects : rule.ruleType = RuleKind.accountDetection.text
  sets : ∃ value, rule.actions.field? "set_account" = some value ∧
    value.isTruthy = true ∧
    value.asText = accountId

/-- The actions of a rule are an object, or there are none. -/
def HasActions (rule : CoveringRule) : Prop :=
  rule.actions = .null ∨ ∃ fields, rule.actions = .obj fields

instance (rule : CoveringRule) : Decidable (HasActions rule) :=
  match given : rule.actions with
  | .null => .isTrue (.inl given)
  | .obj fields => .isTrue (.inr ⟨fields, given⟩)
  | .bool _ | .int _ | .float _ | .str _ | .arr _ =>
      .isFalse (by simp [HasActions, given])

theorem exists_coveredBy {rule : CoveringRule} (actions : HasActions rule) :
    ∃ account?, coveredBy rule = .ok account? ∧
      ∀ accountId, account? = some accountId ↔ Covers rule accountId := by
  have found : setAccount? rule.actions =
      .ok (rule.actions.field? "set_account") := by
    rcases actions with nothing | ⟨fields, object⟩
    · rw [nothing]
      rfl
    · rw [object]
      cases fields <;> rfl
  refine ⟨_, by rw [coveredBy, found]; rfl, fun accountId => ?_⟩
  constructor
  · intro covers
    split at covers
    case isTrue detects =>
      obtain ⟨value, present, reads⟩ := Option.map_eq_some_iff.mp covers
      obtain ⟨sets, truthy⟩ := Option.filter_eq_some_iff.mp present
      exact ⟨detects, value, sets, truthy, reads⟩
    case isFalse => cases covers
  · rintro ⟨detects, value, sets, truthy, reads⟩
    rw [if_pos detects, sets, Option.filter_some_pos truthy, Option.map_some,
      reads]

theorem exists_covered {rules : List CoveringRule}
    (actions : ∀ rule ∈ rules, HasActions rule) :
    ∃ done, covered rules = .ok done ∧
      ∀ accountId, accountId ∈ done ↔
        ∃ rule ∈ rules, Covers rule accountId := by
  induction rules with
  | nil => exact ⟨[], rfl, by simp⟩
  | cons rule rest induction =>
      obtain ⟨first, others⟩ := List.forall_mem_cons.mp actions
      obtain ⟨account?, computed, covers⟩ := exists_coveredBy first
      obtain ⟨done, computedRest, coversRest⟩ := induction others
      refine ⟨account?.toList ++ done, ?_, fun accountId => ?_⟩
      · obtain ⟨accounts?, surveyed, reduced⟩ := bind_eq_ok_iff.mp computedRest
        cases reduced
        rw [covered, List.mapM_cons, computed, surveyed]
        change Except.ok _ = _
        cases account? <;> simp
      · rw [List.mem_append, Option.mem_toList, covers, coversRest]
        simp

/-- The words of an institution and of last digits in this order, and one word
when they are the same. -/
def eachOnce : Option String → Option String → List String
  | some institution, some lastFour =>
      if institution = lastFour then [institution] else [institution, lastFour]
  | some institution, none => [institution]
  | none, some lastFour => [lastFour]
  | none, none => []

/-- An account in use of a type that is not excluded, with an institution or
last digits that are more than blanks. -/
structure Qualifies (excluded : List String) (account : Account) : Prop where
  isActive : account.isActive = true
  kept : account.isDeleted = false
  type : account.type ∉ excluded
  words : ∃ word,
    (account.institution = some word ∨ account.lastFour = some word) ∧
    trimBlank word ≠ ""

/-- An account that qualifies stands at a position, and none with its identifier
does before. -/
structure FirstAt (excluded : List String) (accounts : List Account)
    (position : ℕ) (account : Account) : Prop where
  there : accounts[position]? = some account
  qualifies : Qualifies excluded account
  first : ∀ earlier < position, ∀ other, accounts[earlier]? = some other →
    Qualifies excluded other → other.id ≠ account.id

/-- A draft with the name, the words and the identifier of an account. -/
structure Describes (priority : Int) (account : Account)
    (draft : RuleDraft) : Prop where
  name : draft.name = "Account: " ++ account.name
  conditions : draft.conditions = .obj [("raw_text_contains",
    .arr ((eachOnce (visible? account.institution)
      (visible? account.lastFour)).map .str))]
  actions : draft.actions = .obj [("set_account", .str account.id)]
  ruleType : draft.ruleType = RuleKind.accountDetection.text
  logic : draft.logic = Logic.all.text
  priority : draft.priority = priority
  isActive : draft.isActive = true

/-- There is one draft for each account that qualifies and that no rule covers,
in the order of the first occurrences, and each draft describes the account that
occurs first. -/
structure DraftsOnce (priority : Int) (excluded : List String)
    (accounts : List Account) (rules : List CoveringRule)
    (made : List RuleDraft) : Prop where
  once : (made.map RuleDraft.account?).Nodup
  complete : ∀ accountId, some accountId ∈ made.map RuleDraft.account? ↔
    (∃ account ∈ accounts, Qualifies excluded account ∧
      account.id = accountId) ∧
      ∀ rule ∈ rules, ¬ Covers rule accountId
  inOrder : ∃ positions : List ℕ, positions.Pairwise (· < ·) ∧
    List.Forall₂ (fun position draft => ∃ account,
      FirstAt excluded accounts position account ∧
      Describes priority account draft)
      positions made

theorem keywords_eq (account : Account) :
    keywords account = eachOnce (visible? account.institution)
      (visible? account.lastFour) := by
  unfold keywords
  simp only [List.filterMap_cons, List.filterMap_nil, nonEmpty?_map_trimBlank]
  cases visible? account.institution with
  | none => cases visible? account.lastFour <;>
      simp [eachOnce, List.eraseDups_cons]
  | some institution =>
      cases visible? account.lastFour with
      | none => simp [eachOnce, List.eraseDups_cons]
      | some lastFour =>
          by_cases same : institution = lastFour
          · simp [eachOnce, List.eraseDups_cons, same]
          · simp [eachOnce, List.eraseDups_cons, same, Ne.symm same]

theorem needs_iff_qualifies {excluded : List String} {account : Account} :
    Needs excluded account ↔ Qualifies excluded account := by
  constructor
  · rintro ⟨eligible, words⟩
    simp only [isEligible, Bool.and_eq_true, Bool.not_eq_true',
      List.contains_eq_mem, decide_eq_false_iff_not] at eligible
    obtain ⟨⟨isActive, kept⟩, type⟩ := eligible
    obtain ⟨text, member⟩ := List.exists_mem_of_ne_nil _ words
    obtain ⟨word, given, rfl, visible⟩ := mem_keywords.mp member
    exact ⟨isActive, kept, type, word, given, visible⟩
  · rintro ⟨isActive, kept, type, word, given, visible⟩
    exact ⟨by simp [isEligible, isActive, kept, type],
      keywords_ne_nil given visible⟩

theorem describes_draft (priority : Int) (account : Account) :
    Describes priority account (draft priority account) where
  name := rfl
  conditions := by
    rw [← keywords_eq]
    rfl
  actions := rfl
  ruleType := rfl
  logic := rfl
  priority := rfl
  isActive := rfl

/-- A position behind an account is one further on in front of it. -/
theorem FirstAt.cons {excluded : List String} {accounts : List Account}
    {position : ℕ} {first account : Account}
    (firstAt : FirstAt excluded accounts position account)
    (apart : Qualifies excluded first → first.id ≠ account.id) :
    FirstAt excluded (first :: accounts) (position + 1) account where
  there := firstAt.there
  qualifies := firstAt.qualifies
  first := by
    intro earlier before other found
    cases earlier with
    | zero =>
        cases found
        exact apart
    | succ earlier =>
        exact firstAt.first earlier (Nat.lt_of_succ_lt_succ before) other found

private theorem exists_positions_uncovered (excluded done : List String)
    (accounts : List Account) :
    ∃ positions : List ℕ, positions.Pairwise (· < ·) ∧
      List.Forall₂ (fun position account =>
        FirstAt excluded accounts position account ∧ account.id ∉ done)
        positions (uncovered excluded done accounts) := by
  induction accounts generalizing done with
  | nil => exact ⟨[], .nil, .nil⟩
  | cons first rest induction =>
      by_cases needy : Needs excluded first ∧ first.id ∉ done
      · obtain ⟨positions, increasing, found⟩ := induction (first.id :: done)
        have startsHere : FirstAt excluded (first :: rest) 0 first :=
          ⟨rfl, needs_iff_qualifies.mp needy.1, nofun⟩
        have laterOnes : List.Forall₂ (fun position account =>
            FirstAt excluded (first :: rest) (position + 1) account ∧
              account.id ∉ done)
            positions (uncovered excluded (first.id :: done) rest) := by
          refine found.imp fun position account => ?_
          rintro ⟨firstAt, fresh⟩
          rw [List.mem_cons, not_or] at fresh
          exact ⟨firstAt.cons fun _ => Ne.symm fresh.1, fresh.2⟩
        rw [uncovered_cons_of_needs needy.1 needy.2]
        refine ⟨0 :: positions.map (· + 1), ?_, .cons ⟨startsHere, needy.2⟩ ?_⟩
        · refine List.pairwise_cons.mpr ⟨by simp, ?_⟩
          exact increasing.map _ fun _ _ less => Nat.succ_lt_succ less
        · exact List.forall₂_map_left_iff.mpr laterOnes
      · obtain ⟨positions, increasing, found⟩ := induction done
        rw [uncovered_cons_of_not needy]
        refine ⟨positions.map (· + 1), ?_, List.forall₂_map_left_iff.mpr ?_⟩
        · exact increasing.map _ fun _ _ less => Nat.succ_lt_succ less
        · refine found.imp fun position account => ?_
          rintro ⟨firstAt, fresh⟩
          refine ⟨firstAt.cons fun qualifies same => ?_, fresh⟩
          -- the account in front would be left itself if its identifier were
          -- still open
          exact needy ⟨needs_iff_qualifies.mpr qualifies, same ▸ fresh⟩

theorem map_account?_draft (priority : Int) (accounts : List Account) :
    (accounts.map (draft priority)).map RuleDraft.account? =
      (accounts.map Account.id).map some := by
  rw [List.map_map, List.map_map]
  rfl

/-- Drafting answers one draft for each account that qualifies and that no rule
covers, be it a rule from the start or a newer one, and takes it from the place
where the account first occurs. -/
theorem exists_drafts_once (priority : Int) (excluded : List String)
    (accounts : List Account) (existing : List CoveringRule)
    (latest? : Option (List CoveringRule))
    (actions : ∀ rule ∈ existing ++ latest?.getD [], HasActions rule) :
    ∃ made, drafts priority excluded accounts existing latest? = .ok made ∧
      DraftsOnce priority excluded accounts (existing ++ latest?.getD [])
        made := by
  rw [List.forall_mem_append] at actions
  obtain ⟨done, covers, doneIff⟩ := exists_covered actions.1
  obtain ⟨newer, coversNewer, newerIff⟩ := exists_covered actions.2
  have uncoveredIff : ∀ accountId, accountId ∉ done ++ newer ↔
      ∀ rule ∈ existing ++ latest?.getD [], ¬ Covers rule accountId := by
    intro accountId
    rw [List.mem_append, doneIff, newerIff, List.forall_mem_append]
    push Not
    rfl
  refine ⟨_, drafts_eq_uncovered covers coversNewer priority excluded accounts,
    ?_, ?_, ?_⟩
  · rw [map_account?_draft]
    exact (nodup_ids_uncovered _ _ _).map (Option.some_injective String)
  · intro accountId
    rw [map_account?_draft, List.mem_map_of_injective
      (Option.some_injective String), ← uncoveredIff]
    constructor
    · intro member
      obtain ⟨account, left, rfl⟩ := List.mem_map.mp member
      obtain ⟨given, needs, fresh⟩ := of_mem_uncovered left
      exact ⟨⟨account, given, needs_iff_qualifies.mp needs, rfl⟩, fresh⟩
    · rintro ⟨⟨account, given, qualifies, rfl⟩, fresh⟩
      obtain ⟨other, left, same⟩ :=
        (done_or_uncovered given
          (needs_iff_qualifies.mpr qualifies)).resolve_left fresh
      exact List.mem_map.mpr ⟨other, left, same⟩
  · obtain ⟨positions, increasing, found⟩ :=
      exists_positions_uncovered excluded (done ++ newer) accounts
    refine ⟨positions, increasing, List.forall₂_map_right_iff.mpr ?_⟩
    exact found.imp fun position account firstAt =>
      ⟨account, firstAt.1, describes_draft priority account⟩

/-- An account that is listed three times, first when it was no longer in use,
and others of which only one is left for a draft. -/
def mixedAccounts : List Account := [
  { id := "giro", name := "Old giro", institution := "Union",
    isActive := false },
  { id := "giro", name := "Giro", institution := " Union ",
    lastFour := "Union" },
  { id := "5", name := "Fifth", institution := "Union" },
  { id := "giro", name := "Giro again", lastFour := "1234" },
  { id := "none", name := "Unnamed", institution := "  " },
  { id := "wallet", name := "Wallet", type := "cash", lastFour := "0000" },
  { id := "card", name := "Card", institution := "Union", lastFour := "9876" },
  { id := "late", name := "Late", lastFour := "4321" }]

/-- A rule for an account that is set by its number, one that detects nothing,
and one of another kind. -/
def mixedRules : List CoveringRule := [
  ⟨"account_detection", .obj [("set_account", .int 5)]⟩,
  ⟨"account_detection", .null⟩,
  ⟨"general", .obj [("set_account", .str "card")]⟩]

def lateRules : List CoveringRule :=
  [⟨"account_detection", .obj [("set_account", .str "late")]⟩]

theorem exists_drafts_once_mixed :
    (∀ rule ∈ mixedRules ++ lateRules, HasActions rule) ∧
      ∃ made, drafts 7 ["cash"] mixedAccounts mixedRules (some lateRules) =
        .ok made ∧
        DraftsOnce 7 ["cash"] mixedAccounts (mixedRules ++ lateRules) made ∧
        made.map RuleDraft.name = ["Account: Giro", "Account: Card"] := by
  have actions : ∀ rule ∈ mixedRules ++ lateRules, HasActions rule := by decide
  have named :
      (drafts 7 ["cash"] mixedAccounts mixedRules (some lateRules)).toOption.map
      (List.map RuleDraft.name) = some ["Account: Giro", "Account: Card"] := by
    decide +kernel
  obtain ⟨made, drafted, once⟩ :=
    exists_drafts_once 7 ["cash"] mixedAccounts mixedRules (some lateRules)
      actions
  rw [drafted] at named
  exact ⟨actions, made, drafted, once, Option.some.inj named⟩

end Coverage

end LedgerRules
