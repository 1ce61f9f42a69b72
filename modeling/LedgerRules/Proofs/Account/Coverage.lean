import LedgerRules.Account.Coverage
import LedgerRules.Proofs.Outcomes

/-!
# Accounts that need a draft

Drafting first surveys which accounts no rule covers, and then checks these
against newer rules, which comes to the same as counting the newer rules in from
the start.  The accounts that are left have different identifiers, and every
account that may have a rule and has words is covered or among them.
-/

namespace LedgerRules

namespace Coverage

theorem coveredBy_eq_ok {rule : CoveringRule} {fields : List (String × Json)}
    {account? : Option String} (object : rule.actions = .obj fields)
    (sets : Json.lookUp "set_account" fields = account?.map .str) :
    coveredBy rule =
      .ok (if rule.ruleType = RuleKind.accountDetection.text then
        nonEmpty? account? else none) := by
  have found : setAccount? rule.actions = .ok (account?.map .str) := by
    rw [object, ← sets]
    cases fields <;> rfl
  have shown : ((account?.map Json.str).filter Json.isTruthy).map Json.asText =
      nonEmpty? account? := by
    cases account? with
    | none => rfl
    | some account =>
        by_cases blank : account = ""
        · rw [blank]
          rfl
        · simp [Json.isTruthy, Option.filter, blank, nonEmpty?, Json.asText]
  rw [coveredBy, found, ← shown]
  rfl

theorem covered_map_eq_ok {Item : Type} {items : List Item}
    {rule : Item → CoveringRule} {account? : Item → Option String}
    (each : ∀ item ∈ items, coveredBy (rule item) = .ok (account? item)) :
    covered (items.map rule) = .ok (items.filterMap account?) := by
  have computed : items.mapM (coveredBy ∘ rule) = .ok (items.map account?) :=
    mapM_eq_ok each
  rw [covered, List.mapM_map, computed]
  change Except.ok _ = _
  rw [List.reduceOption, List.filterMap_map]
  rfl

/-- What is left of a word without the blanks around it, unless nothing is. -/
def visible? : Option String → Option String
  | some word => if trimBlank word = "" then none else some (trimBlank word)
  | none => none

theorem visible?_eq_some_iff {word? : Option String} {text : String} :
    visible? word? = some text ↔
      ∃ word, word? = some word ∧ trimBlank word = text ∧ text ≠ "" := by
  cases word? with
  | none => simp [visible?]
  | some word =>
      rw [visible?]
      split
      case isTrue blank => simp [blank]
      case isFalse visible =>
        constructor
        · rintro ⟨⟩
          exact ⟨word, rfl, rfl, visible⟩
        · rintro ⟨_, ⟨⟩, rfl, _⟩
          rfl

theorem nonEmpty?_map_trimBlank (word? : Option String) :
    nonEmpty? (word?.map trimBlank) = visible? word? := by
  cases word? with
  | none => rfl
  | some word =>
      by_cases blank : trimBlank word = "" <;> simp [visible?, nonEmpty?, blank]

/-- The words of an account are its institution and its last digits as far as
they are more than blanks. -/
theorem mem_keywords {account : Account} {text : String} :
    text ∈ keywords account ↔
      ∃ word, (account.institution = some word ∨ account.lastFour = some word) ∧
        trimBlank word = text ∧ text ≠ "" := by
  simp only [keywords, List.mem_eraseDups, List.mem_filterMap,
    nonEmpty?_map_trimBlank, visible?_eq_some_iff, List.mem_cons,
    List.not_mem_nil, or_false]
  constructor
  · rintro ⟨word?, given, word, rfl, trimmed⟩
    exact ⟨word, given.imp Eq.symm Eq.symm, trimmed⟩
  · rintro ⟨word, given, trimmed⟩
    exact ⟨some word, given.imp Eq.symm Eq.symm, word, rfl, trimmed⟩

/-- An account has words when its institution or its last digits are more than
blanks. -/
theorem keywords_ne_nil {account : Account} {word : String}
    (given : account.institution = some word ∨ account.lastFour = some word)
    (visible : trimBlank word ≠ "") : keywords account ≠ [] :=
  List.ne_nil_of_mem (mem_keywords.mpr ⟨word, given, rfl, visible⟩)

/-- An account that may have a rule and has words to be told by. -/
structure Needs (excluded : List String) (account : Account) : Prop where
  eligible : isEligible excluded account = true
  words : keywords account ≠ []

instance (excluded : List String) :
    DecidablePred (Needs excluded) := fun account =>
  decidable_of_iff (isEligible excluded account = true ∧ keywords account ≠ [])
    ⟨fun ⟨eligible, words⟩ => ⟨eligible, words⟩, fun needs =>
      ⟨needs.eligible, needs.words⟩⟩

section Uncovered

variable {excluded done : List String} {accounts : List Account}
  {account : Account}

theorem needy_iff :
    (isEligible excluded account && !done.contains account.id &&
      !(keywords account).isEmpty) =
        true ↔
      Needs excluded account ∧ account.id ∉ done := by
  simp only [Bool.and_eq_true, Bool.not_eq_true', List.contains_eq_mem,
    decide_eq_false_iff_not, List.isEmpty_eq_false_iff]
  constructor
  · rintro ⟨⟨eligible, fresh⟩, words⟩
    exact ⟨⟨eligible, words⟩, fresh⟩
  · rintro ⟨⟨eligible, words⟩, fresh⟩
    exact ⟨⟨eligible, fresh⟩, words⟩

theorem uncovered_cons_of_needs (needs : Needs excluded account)
    (fresh : account.id ∉ done) :
    uncovered excluded done (account :: accounts) =
      account :: uncovered excluded (account.id :: done) accounts := by
  rw [uncovered, if_pos (needy_iff.mpr ⟨needs, fresh⟩)]

theorem uncovered_cons_of_not
    (other : ¬ (Needs excluded account ∧ account.id ∉ done)) :
    uncovered excluded done (account :: accounts) =
      uncovered excluded done accounts := by
  rw [uncovered, if_neg (mt needy_iff.mp other)]

/-- Every account that is left is one of those given, in need, and not done. -/
theorem of_mem_uncovered (member : account ∈ uncovered excluded done accounts) :
    account ∈ accounts ∧ Needs excluded account ∧ account.id ∉ done := by
  induction accounts generalizing done with
  | nil => cases member
  | cons first rest induction =>
      by_cases needy : Needs excluded first ∧ first.id ∉ done
      · rw [uncovered_cons_of_needs needy.1 needy.2] at member
        rcases List.mem_cons.mp member with rfl | later
        · exact ⟨List.mem_cons_self, needy⟩
        · obtain ⟨given, needs, fresh⟩ := induction later
          exact ⟨List.mem_cons_of_mem first given, needs,
            fun old => fresh (List.mem_cons_of_mem first.id old)⟩
      · rw [uncovered_cons_of_not needy] at member
        obtain ⟨given, rest⟩ := induction member
        exact ⟨List.mem_cons_of_mem first given, rest⟩

theorem nodup_ids_uncovered (excluded done : List String)
    (accounts : List Account) :
    ((uncovered excluded done accounts).map Account.id).Nodup := by
  induction accounts generalizing done with
  | nil => exact .nil
  | cons first rest induction =>
      by_cases needy : Needs excluded first ∧ first.id ∉ done
      · rw [uncovered_cons_of_needs needy.1 needy.2, List.map_cons,
          List.nodup_cons]
        refine ⟨?_, induction (first.id :: done)⟩
        intro member
        obtain ⟨other, left, same⟩ := List.mem_map.mp member
        have fresh := (of_mem_uncovered left).2.2
        rw [same] at fresh
        exact fresh List.mem_cons_self
      · rw [uncovered_cons_of_not needy]
        exact induction done

/-- An account in need is done, or one with its identifier is left. -/
theorem done_or_uncovered (given : account ∈ accounts)
    (needs : Needs excluded account) :
    account.id ∈ done ∨ ∃ other ∈ uncovered excluded done accounts,
      other.id = account.id := by
  induction accounts generalizing done with
  | nil => cases given
  | cons first rest induction =>
      by_cases needy : Needs excluded first ∧ first.id ∉ done
      · rw [uncovered_cons_of_needs needy.1 needy.2]
        rcases List.mem_cons.mp given with rfl | later
        · exact .inr ⟨account, List.mem_cons_self, rfl⟩
        · have found : account.id ∈ first.id :: done ∨
              ∃ other ∈ uncovered excluded (first.id :: done) rest, other.id =
                account.id :=
            induction later
          rcases found with old | ⟨other, left, same⟩
          · rcases List.mem_cons.mp old with same | old
            · exact .inr ⟨first, List.mem_cons_self, same.symm⟩
            · exact .inl old
          · exact .inr ⟨other, List.mem_cons_of_mem first left, same⟩
      · rw [uncovered_cons_of_not needy]
        rcases List.mem_cons.mp given with rfl | later
        · exact .inl (Decidable.not_not.mp fun fresh => needy ⟨needs, fresh⟩)
        · exact induction later

theorem uncovered_eq_nil
    (all : ∀ account ∈ accounts, Needs excluded account → account.id ∈ done) :
    uncovered excluded done accounts = [] := by
  rw [List.eq_nil_iff_forall_not_mem]
  intro account member
  obtain ⟨given, needs, fresh⟩ := of_mem_uncovered member
  exact fresh (all account given needs)

/-- Of accounts with distinct identifiers all those in need are left, unless
they are done. -/
theorem uncovered_eq_filter (distinct : (accounts.map Account.id).Nodup)
    (fresh : ∀ account ∈ accounts, account.id ∉ done) :
    uncovered excluded done accounts = accounts.filter fun account =>
      Needs excluded account := by
  induction accounts generalizing done with
  | nil => rfl
  | cons first rest induction =>
      rw [List.map_cons, List.nodup_cons] at distinct
      obtain ⟨firstFresh, restFresh⟩ := List.forall_mem_cons.mp fresh
      by_cases needs : Needs excluded first
      · have stillFresh : ∀ account ∈ rest, account.id ∉ first.id :: done := by
          intro account member
          rw [List.mem_cons, not_or]
          refine ⟨fun same => distinct.1 ?_, restFresh account member⟩
          exact same ▸ List.mem_map_of_mem member
        rw [uncovered_cons_of_needs needs firstFresh,
          induction distinct.2 stillFresh, List.filter_cons_of_pos
            (by simpa using needs)]
      · rw [uncovered_cons_of_not (fun needy => needs needy.1),
          induction distinct.2 restFresh, List.filter_cons_of_neg
            (by simpa using needs)]

end Uncovered

section Newer

variable {excluded done : List String} {accounts : List Account}

theorem uncovered_congr {other : List String}
    (same : ∀ id, id ∈ other ↔ id ∈ done) :
    uncovered excluded other accounts = uncovered excluded done accounts := by
  induction accounts generalizing done other with
  | nil => rfl
  | cons first rest induction =>
      by_cases needy : Needs excluded first ∧ first.id ∉ done
      · have sameDone : ∀ id, id ∈ first.id :: other ↔
            id ∈ first.id :: done := by
          simp [same]
        rw [uncovered_cons_of_needs needy.1 needy.2,
          uncovered_cons_of_needs needy.1 (mt (same first.id).mp needy.2),
          induction sameDone]
      · rw [uncovered_cons_of_not needy, uncovered_cons_of_not (by rwa [same]),
          induction same]

theorem filter_uncovered (newer : List String) :
    (uncovered excluded done accounts).filter
      (fun account => !newer.contains account.id) =
      uncovered excluded (done ++ newer) accounts := by
  induction accounts generalizing done with
  | nil => rfl
  | cons first rest induction =>
      by_cases needy : Needs excluded first ∧ first.id ∉ done
      · rw [uncovered_cons_of_needs needy.1 needy.2]
        by_cases late : first.id ∈ newer
        · have sameDone : ∀ id, id ∈ first.id :: done ++ newer ↔
              id ∈ done ++ newer := by
            intro id
            simp only [List.cons_append, List.mem_cons, or_iff_right_iff_imp]
            rintro rfl
            exact List.mem_append_right done late
          rw [List.filter_cons_of_neg (by simpa using late), induction,
            uncovered_congr sameDone, uncovered_cons_of_not (by simp [late])]
        · rw [List.filter_cons_of_pos (by simpa using late), induction,
            uncovered_cons_of_needs needy.1 (by simp [needy.2, late])]
          rfl
      · have covered : ¬ (Needs excluded first ∧ first.id ∉ done ++ newer) := by
          rintro ⟨needs, fresh⟩
          exact needy ⟨needs, fun old => fresh (List.mem_append_left newer old)⟩
        rw [uncovered_cons_of_not needy, uncovered_cons_of_not covered,
          induction]

/-- Drafts are made of the accounts that neither the rules at the start nor
newer ones cover. -/
theorem drafts_eq_uncovered {existing : List CoveringRule}
    {latest? : Option (List CoveringRule)} {newer : List String}
    (covers : covered existing = .ok done)
    (coversNewer : covered (latest?.getD []) = .ok newer) (priority : Int)
    (excluded : List String) (accounts : List Account) :
    drafts priority excluded accounts existing latest? =
      .ok ((uncovered excluded (done ++ newer) accounts).map
        (draft priority)) := by
  rw [← filter_uncovered]
  unfold drafts
  rw [covers]
  cases latest? with
  | none =>
      cases coversNewer
      simp [bind, Except.bind, pure, Except.pure]
  | some latest =>
      rw [Option.getD_some] at coversNewer
      simp only [bind, Except.bind, pure, Except.pure, coversNewer]
      split
      case isTrue empty =>
        rw [List.isEmpty_iff.mp empty]
        rfl
      case isFalse => rfl

/-- When no rules are newer, drafts are made of all accounts that no rule
covers. -/
theorem drafts_eq_ok {rules : List CoveringRule}
    (covers : covered rules = .ok done) (priority : Int)
    (excluded : List String) (accounts : List Account) :
    drafts priority excluded accounts rules (some rules) =
      .ok ((uncovered excluded done accounts).map (draft priority)) := by
  have coversAgain : covered ((some rules).getD []) = .ok done := covers
  have sameDone : ∀ id, id ∈ done ++ done ↔ id ∈ done := by simp
  rw [drafts_eq_uncovered covers coversAgain, uncovered_congr sameDone]

end Newer

/-- The accounts that need a draft as far as the given rules tell. -/
def survey (excluded : List String) (accounts : List Account)
    (existing : List CoveringRule) :
    Except NotAnObject (List Account) := do
  return uncovered excluded (← covered existing) accounts

/-- The accounts that still need a draft when newer rules are counted in. -/
def recheck (latest : List CoveringRule) (needy : List Account) :
    Except NotAnObject (List Account) :=
  if needy.isEmpty then .ok needy
  else do
    let done ← covered latest
    return needy.filter fun account => !done.contains account.id

theorem drafts_eq (priority : Int) (excluded : List String)
    (accounts : List Account) (existing latest : List CoveringRule) :
    drafts priority excluded accounts existing (some latest) = do
      let needy ← survey excluded accounts existing
      return (← recheck latest needy).map (draft priority) := by
  unfold drafts survey recheck
  cases covered existing with
  | error fault => rfl
  | ok done =>
      simp only [bind, Except.bind, pure, Except.pure]
      split
      · rfl
      · cases covered latest <;> rfl

theorem subset_of_recheck {latest : List CoveringRule}
    {needy left : List Account} (success : recheck latest needy = .ok left) :
    left ⊆ needy := by
  unfold recheck at success
  split at success
  case isTrue =>
    cases success
    exact List.Subset.refl _
  case isFalse =>
    obtain ⟨_, _, success⟩ := bind_eq_ok_iff.mp success
    cases success
    exact List.filter_subset_self _

/-- Drafts are made of accounts in need. -/
theorem exists_needy_of_drafts {priority : Int} {excluded : List String}
    {accounts : List Account} {existing : List CoveringRule}
    {latest? : Option (List CoveringRule)} {made : List RuleDraft}
    (success : drafts priority excluded accounts existing latest? = .ok made) :
    ∃ needy : List Account, made = needy.map (draft priority) ∧
      ∀ account ∈ needy, account ∈ accounts ∧ Needs excluded account := by
  have inNeed : ∀ {done : List String},
      ∀ account ∈ uncovered excluded done accounts,
      account ∈ accounts ∧ Needs excluded account := by
    intro done account member
    obtain ⟨given, needs, _⟩ := of_mem_uncovered member
    exact ⟨given, needs⟩
  cases latest? with
  | none =>
      obtain ⟨_, _, success⟩ := bind_eq_ok_iff.mp success
      cases success
      exact ⟨_, rfl, inNeed⟩
  | some latest =>
      rw [drafts_eq] at success
      obtain ⟨surveyed, found, checkedAgain⟩ := bind_eq_ok_iff.mp success
      obtain ⟨needy, rechecked, drafted⟩ := bind_eq_ok_iff.mp checkedAgain
      cases drafted
      obtain ⟨_, _, uncoveredOnes⟩ := bind_eq_ok_iff.mp found
      cases uncoveredOnes
      exact ⟨needy, rfl, fun account member =>
        inNeed account (subset_of_recheck rechecked member)⟩

end Coverage

end LedgerRules
