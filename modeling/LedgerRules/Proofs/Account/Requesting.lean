import LedgerRules.Proofs.Account.Drafting
import LedgerRules.Proofs.Payload.Written

/-!
# Drafts as requests

A draft goes into the table without a check.  A request with the same fields is
accepted, and reads as the draft, as long as the name of the account leaves room
for what stands in front of it.
-/

namespace LedgerRules

/-- The draft as the body of a request. -/
def RuleDraft.body (draft : RuleDraft) : Json :=
  .obj [("name", .str draft.name), ("is_active", .bool draft.isActive),
    ("priority", .int draft.priority), ("rule_type", .str draft.ruleType),
    ("condition_logic", .str draft.logic), ("conditions", draft.conditions),
    ("actions", draft.actions)]

namespace Coverage

open Payload

/-- The request that a draft of an account stands for. -/
def request (priority : Int) (account : Account) : RuleRequest where
  name := "Account: " ++ account.name
  priority := priority
  ruleType := RuleKind.accountDetection.text
  conditions := { rawTextContains := some (keywords account) }
  actions := { setAccount := some account.id }

/-- The greatest length of an account's name that leaves room in the name of a
rule. -/
def longestFittingName : Nat := RuleRequest.longestName - "Account: ".length

theorem dump_request (priority : Int) (account : Account) :
    .obj ((request priority account).dump false) =
      (draft priority account).body := rfl

theorem lawful_request (priority : Int) (account : Account) :
    (request priority account).conditions.Lawful ∧
    (request priority account).actions.Lawful :=
  ⟨⟨by simp [request], by simp [request], by simp [request]⟩,
    by simp [request, Actions.Lawful]⟩

theorem check_conditions_draft (origin : Origin) (priority : Int)
    (account : Account) :
    Conditions.check origin (draft priority account).conditions =
      .accepted (request priority account).conditions :=
  Conditions.check_dump (lawful_request priority account).1 origin

theorem check_actions_draft (origin : Origin) (priority : Int)
    (account : Account) :
    Actions.check origin (draft priority account).actions =
      .accepted (request priority account).actions :=
  Actions.check_dump (lawful_request priority account).2 origin

theorem boundedText_name (priority : Int) (account : Account) :
    boundedText 1 RuleRequest.longestName (.str (draft priority account).name) =
      if account.name.length ≤ longestFittingName then
        .accepted (draft priority account).name
      else .refuse (.textTooLong RuleRequest.longestName) := by
  have length : (draft priority account).name.length = "Account: ".length +
      account.name.length :=
    String.length_append _ _
  have longest : RuleRequest.longestName = "Account: ".length +
      longestFittingName := rfl
  unfold boundedText
  dsimp only
  rw [if_neg (by rw [length, not_lt]; exact Nat.le_add_right_of_le (by decide)),
    length, longest]
  by_cases fits : account.name.length ≤ longestFittingName
  · rw [if_pos fits, if_neg (by omega)]
  · rw [if_neg fits, if_pos (by omega)]

theorem check_body_draft (origin : Origin) (priority : Int)
    (account : Account) :
    RuleRequest.check origin (draft priority account).body =
      if account.name.length ≤ longestFittingName then
        .accepted (request priority account)
      else .rejected
        [⟨[.field "name"], .textTooLong RuleRequest.longestName⟩] := by
  change RuleRequest.mk
    <$> (boundedText 1 RuleRequest.longestName
      (.str (draft priority account).name)).under
      (.field "name")
    <*> .accepted true <*> .accepted priority <*>
      .accepted RuleKind.accountDetection.text
    <*> .accepted Logic.all.text
    <*> (Conditions.check origin (draft priority account).conditions).under
      (.field "conditions")
    <*> (Actions.check origin (draft priority account).actions).under
      (.field "actions")
    <*> .accepted none <*> .accepted none <*> .accepted none = _
  rw [check_conditions_draft, check_actions_draft, boundedText_name]
  split <;> rfl

/-- Every draft describes one of the accounts.  When the name of the account
leaves room, a request with the fields of the draft is accepted and says what
the draft says; otherwise its name is refused. -/
theorem check_body_of_mem_drafts (priority : Int) (excluded : List String)
    (accounts : List Account) (existing : List CoveringRule)
    (latest? : Option (List CoveringRule)) {made : List RuleDraft}
    (drafted : drafts priority excluded accounts existing latest? = .ok made)
    (origin : Origin) :
    ∀ draft ∈ made, ∃ account ∈ accounts, Describes priority account draft ∧
      (account.name.length ≤ longestFittingName →
        ∃ request, RuleRequest.check origin draft.body = .accepted request ∧
          .obj (request.dump false) = draft.body) ∧
      (longestFittingName < account.name.length →
        RuleRequest.check origin draft.body =
          .rejected [⟨[.field "name"],
            .textTooLong RuleRequest.longestName⟩]) := by
  intro _ member
  obtain ⟨needy, rfl, given⟩ := exists_needy_of_drafts drafted
  obtain ⟨account, needs, rfl⟩ := List.mem_map.mp member
  refine ⟨account, (given account needs).1, describes_draft priority account,
    ?_, ?_⟩
  · intro fits
    refine ⟨request priority account, ?_, dump_request priority account⟩
    rw [check_body_draft, if_pos fits]
  · intro long
    rw [check_body_draft, if_neg (not_le.mpr long)]

theorem drafts_singleton {excluded : List String} {account : Account}
    (qualifies : Qualifies excluded account) (priority : Int) :
    drafts priority excluded [account] [] none =
      .ok [draft priority account] := by
  have needs : Needs excluded account := needs_iff_qualifies.mpr qualifies
  have nothing : covered [] = .ok [] := rfl
  have nothingNewer : covered ((none : Option (List CoveringRule)).getD []) =
      .ok [] := rfl
  rw [drafts_eq_uncovered nothing nothingNewer, List.append_nil,
    uncovered_cons_of_needs needs List.not_mem_nil]
  rfl

/-- An account in use with a name and an institution. -/
def bankAccount (name : String) : Account :=
  { id := "giro", name := name, institution := some "Union" }

theorem qualifies_bankAccount (name : String) :
    Qualifies ["cash"] (bankAccount name) :=
  ⟨rfl, rfl, (by decide : "checking" ∉ ["cash"]), "Union", .inl rfl, by decide⟩

theorem check_body_of_mem_drafts_giro :
    drafts 7 ["cash"] [bankAccount "Giro"] [] none =
      .ok [draft 7 (bankAccount "Giro")] ∧
      ∃ request, RuleRequest.check .request
        (draft 7 (bankAccount "Giro")).body =
          .accepted request ∧
        .obj (request.dump false) = (draft 7 (bankAccount "Giro")).body := by
  have drafted := drafts_singleton (qualifies_bankAccount "Giro") 7
  obtain ⟨account, given, _, accepted, _⟩ :=
    check_body_of_mem_drafts 7 ["cash"] _ [] none drafted .request _
      List.mem_cons_self
  rw [List.mem_singleton.mp given] at accepted
  exact ⟨drafted, accepted (by decide)⟩

/-- A name of 200 characters leaves no room for what stands in front of it. -/
theorem exists_refused_draft : ¬ ∀ (priority : Int) (excluded : List String)
    (accounts : List Account) (existing : List CoveringRule)
    (latest? : Option (List CoveringRule)) (made : List RuleDraft),
    (∀ account ∈ accounts, 1 ≤ account.name.length ∧
      account.name.length ≤ 200) →
      drafts priority excluded accounts existing latest? = .ok made →
      ∀ draft ∈ made, ∃ request, RuleRequest.check .request draft.body =
        .accepted request := by
  intro always
  let name := String.ofList (List.replicate 200 'x')
  have length : name.length = 200 :=
    String.length_ofList.trans List.length_replicate
  have bounded : ∀ account ∈ [bankAccount name],
      1 ≤ account.name.length ∧ account.name.length ≤ 200 := by
    rintro account given
    rw [List.mem_singleton.mp given]
    change 1 ≤ name.length ∧ name.length ≤ 200
    omega
  obtain ⟨_, accepted⟩ := always 100 ["cash"] [bankAccount name]
    [] none _ bounded
    (drafts_singleton (qualifies_bankAccount name) 100) _ List.mem_cons_self
  have long : ¬ (bankAccount name).name.length ≤ longestFittingName := by
    change ¬ name.length ≤ 191
    omega
  rw [check_body_draft, if_neg long] at accepted
  cases accepted

end Coverage

end LedgerRules
