import LedgerRules.Proofs.Resolution.Linking

/-!
# Resolving in rounds

A resolution can be put through the rules again and again, each time with what
the round before left.  Rules may then start or stop matching and destinations
may change, but a transfer is asked for once at most, and it keeps its
identifier from then on.
-/

namespace LedgerRules

namespace Resolution

section Rounds

variable {known : KnownAccounts} {rules : List StoredRule} {ids : IdSource}
  {candidate : Candidate} {results : List Resolution}

theorem rounds_succ_eq_ok_iff {count : Nat} :
    rounds known rules (count + 1) ids candidate = .ok results ↔
      ∃ resolution after rest,
        resolve known ids rules candidate = .ok (resolution, after) ∧
        rounds known rules count after resolution.candidate = .ok rest ∧
        results = resolution :: rest := by
  constructor
  · intro success
    obtain ⟨⟨resolution, after⟩, resolving, success⟩ :=
      bind_eq_ok_iff.mp success
    obtain ⟨rest, running, success⟩ := bind_eq_ok_iff.mp success
    cases success
    exact ⟨resolution, after, rest, resolving, running, rfl⟩
  · rintro ⟨resolution, after, rest, resolving, running, rfl⟩
    exact bind_eq_ok_iff.mpr
      ⟨_, resolving, bind_eq_ok_iff.mpr ⟨_, running, rfl⟩⟩

private theorem kept_of_resolve {after : IdSource} {resolution : Resolution}
    {transferId : String}
    (linked : nonEmpty? candidate.transferId = some transferId)
    (success : resolve known ids rules candidate = .ok (resolution, after)) :
    resolution.transferId = candidate.transferId ∧
    resolution.transferRequest = none := by
  cases resolved_of_resolve success with
  | single _ same unrequested => exact ⟨same, unrequested⟩
  | paired _ unlinked =>
      rw [linked] at unlinked
      cases unlinked

theorem kept_of_rounds {count : Nat} {transferId : String}
    (linked : nonEmpty? candidate.transferId = some transferId)
    (success : rounds known rules count ids candidate = .ok results) :
    ∀ result ∈ results,
      result.transferId = candidate.transferId ∧
      result.transferRequest = none := by
  induction count generalizing ids candidate results with
  | zero =>
      cases success
      intro result member
      cases member
  | succ count induction =>
      obtain ⟨resolution, after, rest, resolving, running, rfl⟩ :=
        rounds_succ_eq_ok_iff.mp success
      obtain ⟨same, unrequested⟩ := kept_of_resolve linked resolving
      have stillLinked : nonEmpty? resolution.candidate.transferId =
          some transferId := by
        change nonEmpty? resolution.transferId = some transferId
        rw [same, linked]
      intro result member
      rcases List.mem_cons.mp member with rfl | later
      · exact ⟨same, unrequested⟩
      · obtain ⟨sameLater, unrequestedLater⟩ :=
          induction stillLinked running result later
        exact ⟨sameLater.trans same, unrequestedLater⟩

/-- A resolution that is linked. -/
def IsLinked (resolution : Resolution) : Prop :=
  (nonEmpty? resolution.transferId).isSome = true

instance (resolution : Resolution) : Decidable resolution.IsLinked :=
  inferInstanceAs (Decidable (_ = true))

/-- In any number of rounds a transfer is asked for once at most, and never for
a candidate that is linked already; a result that is linked hands its identifier
on to all later ones. -/
theorem rounds_link_once {count : Nat}
    (success : rounds known rules count ids candidate = .ok results) :
    results.length = count ∧
      results.countP (fun result => result.transferRequest.isSome) ≤ 1 ∧
      ((nonEmpty? candidate.transferId).isSome = true →
        ∀ result ∈ results, result.transferRequest = none) ∧
      results.Pairwise fun earlier later =>
        earlier.IsLinked → later.transferId = earlier.transferId := by
  have unasked : (nonEmpty? candidate.transferId).isSome = true →
      ∀ result ∈ results, result.transferRequest = none := by
    intro linked result member
    obtain ⟨transferId, present⟩ := Option.isSome_iff_exists.mp linked
    exact (kept_of_rounds present success result member).2
  induction count generalizing ids candidate results with
  | zero =>
      cases success
      exact ⟨rfl, Nat.zero_le _, unasked, .nil⟩
  | succ count induction =>
      obtain ⟨resolution, after, rest, resolving, running, rfl⟩ :=
        rounds_succ_eq_ok_iff.mp success
      have handedOn : ∀ later ∈ rest, resolution.IsLinked →
          later.transferId = resolution.transferId ∧
          later.transferRequest = none := by
        intro later member linked
        obtain ⟨transferId, present⟩ := Option.isSome_iff_exists.mp linked
        exact kept_of_rounds present running later member
      have unaskedLater : resolution.IsLinked →
          ∀ later ∈ rest, later.transferRequest = none := by
        intro linked later member
        exact (handedOn later member linked).2
      obtain ⟨length, requests, _, pairwise⟩ := induction running unaskedLater
      refine ⟨by rw [List.length_cons, length], ?_, unasked, ?_⟩
      · cases resolved_of_resolve resolving with
        | single _ _ unrequested =>
            rw [List.countP_cons_of_neg (by simp [unrequested])]
            exact requests
        | paired _ _ _ _ _ _ transferId request =>
            -- The round has linked the candidate, so no later one asks for a
            -- transfer.
            have linked : resolution.IsLinked := by
              rw [IsLinked, transferId, ids.nonEmpty?_next]
              rfl
            have none : rest.countP
                (fun result => result.transferRequest.isSome) = 0 := by
              rw [List.countP_eq_zero]
              intro later member
              simp [unaskedLater linked later member]
            rw [List.countP_cons_of_pos (by simp [request]), none]
      · refine .cons ?_ pairwise
        intro later member linked
        exact (handedOn later member linked).1

end Rounds

/-- A rule that links what is put aside, and a rule that puts everything aside;
the first one does not match before the second one has been applied. -/
def savingRules : List StoredRule := [
  { id := "vault", name := "Vault", priority := 2
    conditions := .obj [("category", .str "aside")]
    actions := .obj [("link_to_account", .str "vault")] },
  { id := "aside", name := "Aside", priority := 1
    actions := .obj
      [("set_category", .str "aside"), ("set_account", .str "wallet")] }]

def saving : Candidate where
  description := some "Saving"
  amount := .ofInt 20

theorem rounds_link_once_saving :
    ∃ results, rounds none savingRules 3 .transfers saving = .ok results ∧
      results.map (fun result => result.transferRequest.isSome) =
        [false, true, false] ∧
      results.map Resolution.transferId =
        [none, some "transfer-1", some "transfer-1"] ∧
      results.length = 3 ∧
      results.countP (fun result => result.transferRequest.isSome) ≤ 1 ∧
      ((nonEmpty? saving.transferId).isSome = true →
        ∀ result ∈ results, result.transferRequest = none) ∧
      results.Pairwise fun earlier later =>
        earlier.IsLinked → later.transferId = earlier.transferId := by
  have seen : (rounds none savingRules 3 .transfers saving).toOption.map
      (fun results => results.map fun result =>
        (result.transferRequest.isSome, result.transferId)) =
      some [(false, none), (true, some "transfer-1"),
        (false, some "transfer-1")] := by
    cbv
  cases success : rounds none savingRules 3 .transfers saving with
  | error fault =>
      rw [success] at seen
      cases seen
  | ok results =>
      rw [success] at seen
      have shown := Option.some.inj seen
      refine ⟨results, rfl, ?_, ?_, rounds_link_once success⟩
      · simpa [Function.comp_def] using congrArg (List.map Prod.fst) shown
      · simpa [Function.comp_def] using congrArg (List.map Prod.snd) shown

end Resolution

end LedgerRules
