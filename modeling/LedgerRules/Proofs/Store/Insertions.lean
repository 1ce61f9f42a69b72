import LedgerRules.Proofs.Store.Rules
import LedgerRules.Service.Rules

/-!
# Inserting several rules

Rules that are inserted together become rows in their order behind the rules
that are there.  They can be inserted when their priorities fit and the accounts
that they detect are not detected yet, since the identifiers that are given out
are new.
-/

namespace LedgerRules

namespace IdCounter

/-- An identifier that a counter may have given out already. -/
def HasIssued (counter : IdCounter) (id : String) : Prop :=
  ∃ number ≤ counter.issued, id = numbered counter.kind number

variable {counter : IdCounter} {id : String}

theorem HasIssued.next (issued : counter.HasIssued id) :
    counter.next.2.HasIssued id := by
  obtain ⟨number, bound, same⟩ := issued
  exact ⟨number, Nat.le_succ_of_le bound, same⟩

theorem hasIssued_next (counter : IdCounter) :
    counter.next.2.HasIssued counter.next.1 :=
  ⟨counter.issued + 1, Nat.le_refl _, rfl⟩

/-- The next identifier is a new one. -/
theorem not_hasIssued_next (counter : IdCounter) :
    ¬ counter.HasIssued counter.next.1 := by
  rintro ⟨number, bound, same⟩
  have numbers : toString (counter.issued + 1) = toString number := by
    simpa [IdCounter.next, numbered, String.append_right_inj] using same
  have equal : counter.issued + 1 = number := Nat.repr_inj.mp numbers
  omega

end IdCounter

/-- The kind of a rule with the account that it detects, for rules that detect
one. -/
def RuleRow.key? (row : RuleRow) : Option (String × String) :=
  row.detectedAccount.map fun account => (row.ruleType, account)

namespace Store

def NewRule.key? (new : NewRule) : Option (String × String) :=
  new.detectedAccount.map fun account => (new.ruleType, account)

theorem clash_eq_true_iff {left right : RuleRow} :
    clash left right = true ↔ ∃ key, left.key? = some key ∧
    right.key? = some key := by
  simp only [clash, RuleRow.key?, Bool.and_eq_true, decide_eq_true_eq]
  constructor
  · rintro ⟨⟨detects, account⟩, ruleType⟩
    obtain ⟨detected, present⟩ := Option.isSome_iff_exists.mp detects
    refine ⟨(left.ruleType, detected), by rw [present]; rfl, ?_⟩
    rw [← account, present, ← ruleType]
    rfl
  · rintro ⟨key, leftKey, rightKey⟩
    obtain ⟨leftAccount, leftDetects, rfl⟩ := Option.map_eq_some_iff.mp leftKey
    obtain ⟨rightAccount, rightDetects, same⟩ :=
      Option.map_eq_some_iff.mp rightKey
    obtain ⟨ruleType, account⟩ := Prod.mk.inj same
    rw [leftDetects, rightDetects]
    exact ⟨⟨rfl, by rw [account]⟩, ruleType.symm⟩

/-- A row with the columns of a new rule. -/
structure Fills (new : NewRule) (row : RuleRow) : Prop where
  name : new.name = some row.name
  isActive : row.isActive = new.isActive
  priority : row.priority = new.priority
  ruleType : row.ruleType = new.ruleType
  logic : row.logic = new.logic
  conditions : row.conditions = new.conditions
  actions : row.actions = new.actions
  promptText : row.promptText = new.promptText
  matchPhone : row.matchPhone = new.matchPhone
  transferTo : row.transferTo = new.transferTo
  detectedAccount : row.detectedAccount = new.detectedAccount

theorem Fills.key?_eq {new : NewRule} {row : RuleRow} (fills : Fills new row) :
    row.key? = new.key? := by
  rw [RuleRow.key?, fills.detectedAccount, fills.ruleType]
  rfl

theorem detectedAccount_of_key? {row : RuleRow} {ruleType account : String}
    (key : row.key? = some (ruleType, account)) :
    row.detectedAccount = some account := by
  obtain ⟨detected, present, same⟩ := Option.map_eq_some_iff.mp key
  rw [present, (Prod.mk.inj same).2]

/-- What a successful insertion of several rules does. -/
structure InsertedRules (news : List NewRule) (store : Store)
    (rows : List RuleRow) (after : Store) : Prop where
  filled : List.Forall₂ Fills news rows
  rules : after.rules = store.rules ++ rows
  accounts : after.accounts = store.accounts
  transactions : after.transactions = store.transactions

theorem InsertedRules.keys {news : List NewRule} {store after : Store}
    {rows : List RuleRow} (inserted : InsertedRules news store rows after) :
    rows.map RuleRow.key? = news.map NewRule.key? := by
  rw [← List.forall₂_eq_eq_eq, List.forall₂_map_left_iff,
    List.forall₂_map_right_iff]
  exact (inserted.filled.imp fun _ _ fills => fills.key?_eq).flip

section Insertions

variable {store after : Store} {new : NewRule} {row : RuleRow}
  {news : List NewRule} {rows : List RuleRow}

theorem insertedRules_of_insertRule
    (success : store.insertRule new = .ok (row, after)) :
    InsertedRules [new] store [row] after := by
  obtain ⟨priority, stored, success⟩ := bind_eq_ok_iff.mp success
  obtain ⟨_, _, success⟩ := bind_eq_ok_iff.mp success
  obtain ⟨name, required, success⟩ := bind_eq_ok_iff.mp success
  have samePriority : priority = new.priority := by
    unfold storedInt at stored
    split at stored
    · exact (Except.ok.inj stored).symm
    · cases stored
  have sameName : new.name = some name := by
    cases given : new.name with
    | none =>
        rw [given] at required
        cases required
    | some text =>
        rw [given] at required
        cases required
        rfl
  dsimp only at success
  split at success
  case isTrue => cases success
  case isFalse =>
    cases success
    exact ⟨.cons ⟨sameName, rfl, samePriority, rfl, rfl, rfl, rfl, rfl, rfl,
      rfl, rfl⟩ .nil, rfl, rfl, rfl⟩

theorem insertedRules_of_insertRules
    (success : store.insertRules news = .ok (rows, after)) :
    InsertedRules news store rows after := by
  induction news generalizing store rows with
  | nil =>
      cases success
      exact ⟨.nil, (List.append_nil _).symm, rfl, rfl⟩
  | cons new rest induction =>
      obtain ⟨⟨row, between⟩, inserting, success⟩ := bind_eq_ok_iff.mp success
      obtain ⟨⟨others, last⟩, insertingRest, success⟩ :=
        bind_eq_ok_iff.mp success
      cases success
      have first := insertedRules_of_insertRule inserting
      have later := induction insertingRest
      obtain ⟨fills, _⟩ := List.forall₂_cons.mp first.filled
      refine ⟨.cons fills later.filled, ?_, later.accounts.trans first.accounts,
        later.transactions.trans first.transactions⟩
      rw [later.rules, first.rules, List.append_assoc]
      rfl

/-- Every rule has an identifier that was given out. -/
def Numbered (store : Store) : Prop :=
  ∀ row ∈ store.rules, store.ruleIds.HasIssued row.id

/-- A new rule with a name, a priority that fits and an account that can be
bound, and no identifier of its own. -/
structure NewRule.Fits (new : NewRule) : Prop where
  id : new.id = none
  bound : new.bound = .ok ()
  name : new.name.isSome = true
  priority : Date.fitsInteger new.priority = true

theorem numbered_of_insertRule
    (success : store.insertRule new = .ok (row, after))
    (numbered : Numbered store) (id : new.id = none) : Numbered after := by
  obtain ⟨_, _, success⟩ := bind_eq_ok_iff.mp success
  obtain ⟨_, _, success⟩ := bind_eq_ok_iff.mp success
  obtain ⟨_, _, success⟩ := bind_eq_ok_iff.mp success
  simp only [id, identify] at success
  split at success
  case isTrue => cases success
  case isFalse =>
    cases success
    intro other member
    rcases List.mem_append.mp member with old | inserted
    · exact (numbered other old).next
    · rw [List.mem_singleton.mp inserted]
      exact store.ruleIds.hasIssued_next

private theorem insertRule_eq_ok (numbered : Numbered store) (fits : new.Fits)
    (apart : ∀ key ∈ new.key?, ∀ other ∈ store.rules, other.key? ≠ some key) :
    ∃ row after, store.insertRule new = .ok (row, after) := by
  obtain ⟨name, named⟩ := Option.isSome_iff_exists.mp fits.name
  have priority : storedInt new.priority = .ok new.priority := by
    rw [storedInt, if_pos fits.priority]
  simp only [insertRule, priority, fits.bound, named, required, fits.id,
    identify, bind, Except.bind]
  split
  case isTrue blocked =>
    obtain ⟨other, member, reason⟩ := List.any_eq_true.mp blocked
    rcases Bool.or_eq_true_iff.mp reason with sameId | clashes
    · have taken := numbered other member
      rw [of_decide_eq_true sameId] at taken
      exact (store.ruleIds.not_hasIssued_next taken).elim
    · obtain ⟨key, otherKey, newKey⟩ := clash_eq_true_iff.mp clashes
      exact (apart key newKey other member otherKey).elim
  case isFalse => exact ⟨_, _, rfl⟩

/-- New rules that detect accounts which are not detected yet, each its own one,
can be inserted. -/
theorem insertRules_eq_ok (numbered : Numbered store)
    (fits : ∀ new ∈ news, new.Fits)
    (apart : ∀ new ∈ news, ∀ key ∈ new.key?, ∀ row ∈ store.rules,
      row.key? ≠ some key)
    (distinct : news.Pairwise fun left right => ∀ key ∈ left.key?,
      right.key? ≠ some key) :
    ∃ rows after, store.insertRules news = .ok (rows, after) := by
  induction news generalizing store with
  | nil => exact ⟨[], store, rfl⟩
  | cons new rest induction =>
      obtain ⟨fitsNew, fitsRest⟩ := List.forall_mem_cons.mp fits
      obtain ⟨apartNew, apartRest⟩ := List.forall_mem_cons.mp apart
      obtain ⟨distinctNew, distinctRest⟩ := List.pairwise_cons.mp distinct
      obtain ⟨row, between, inserting⟩ :=
        insertRule_eq_ok numbered fitsNew apartNew
      have inserted := insertedRules_of_insertRule inserting
      have rowKey : row.key? = new.key? :=
        (List.forall₂_cons.mp inserted.filled).1.key?_eq
      obtain ⟨rows, after, insertingRest⟩ := induction
        (numbered_of_insertRule inserting numbered fitsNew.id) fitsRest (by
          intro other member key otherKey old oldMember
          rw [inserted.rules] at oldMember
          rcases List.mem_append.mp oldMember with stored | fresh
          · exact apartRest other member key otherKey old stored
          · rw [List.mem_singleton.mp fresh, rowKey]
            intro newKey
            exact distinctNew other member key newKey otherKey) distinctRest
      exact ⟨row :: rows, after, bind_eq_ok_iff.mpr ⟨_, inserting,
        bind_eq_ok_iff.mpr ⟨_, insertingRest, rfl⟩⟩⟩

end Insertions

end Store

/-- Flushing new rules in a new session and committing them inserts them. -/
theorem Service.committed_flush (news : List Store.NewRule) (store : Store) :
    committed (fun session => session.flush news) store =
      store.insertRules news := by
  cases inserting : store.insertRules news with
  | error fault =>
      simp [committed, RuleSession.flush, RuleSession.start,
        RuleSession.writeEdits, inserting, bind, Except.bind]
  | ok result =>
      simp [committed, RuleSession.commit, RuleSession.flush, RuleSession.start,
        RuleSession.writeEdits, Store.insertRules, inserting, bind, Except.bind,
        pure, Except.pure]

end LedgerRules
