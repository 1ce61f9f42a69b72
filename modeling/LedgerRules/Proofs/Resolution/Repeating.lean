import LedgerRules.Proofs.Resolution.Linking

/-!
# Linking again

What linking leaves is settled: it has no destination, or it is linked.  Linking
leaves settled resolutions alone, and so linking any number of times is linking
once.  This holds wherever identifiers come from, as long as none of them is
empty, and at most one of them is taken.
-/

namespace LedgerRules

namespace Resolution

/-- A resolution that linking makes a half of a new transfer. -/
structure Pairs (known : KnownAccounts) (resolution : Resolution)
    (destination : String) : Prop where
  destined : nonEmpty? resolution.transferTo = some destination
  unlinked : nonEmpty? resolution.transferId = none
  allowed : known.allow destination = true
  apart : resolution.accountId ≠ some destination

theorem linkFrom_cases (known : KnownAccounts) (supply : IdSupply) (asked : ℕ)
    (resolution : Resolution) :
    (resolution.linkFrom known supply asked).1.IsSettled ∧
      ((¬ ∃ destination, Pairs known resolution destination) ∧
          (resolution.linkFrom known supply asked).2 = asked ∨
        (∃ destination, Pairs known resolution destination) ∧
          (resolution.linkFrom known supply asked).2 = asked + 1) := by
  unfold linkFrom
  split
  case h_1 absent =>
    refine ⟨.inl absent, .inl ⟨?_, rfl⟩⟩
    rintro ⟨destination, pairs⟩
    cases absent.symm.trans pairs.destined
  case h_2 destination destined =>
    have same : ∀ {other}, Pairs known resolution other →
        other = destination := by
      intro other pairs
      exact Option.some.inj (pairs.destined.symm.trans destined)
    split_ifs with linked refused own
    · refine ⟨.inr (Option.isSome_iff_exists.mp linked), .inl ⟨?_, rfl⟩⟩
      rintro ⟨other, pairs⟩
      rw [pairs.unlinked] at linked
      cases linked
    · refine ⟨.inl rfl, .inl ⟨?_, rfl⟩⟩
      rintro ⟨other, pairs⟩
      rw [← same pairs, pairs.allowed] at refused
      cases refused
    · refine ⟨.inl rfl, .inl ⟨?_, rfl⟩⟩
      rintro ⟨other, pairs⟩
      exact pairs.apart (same pairs ▸ own)
    · refine ⟨.inr ⟨_, supply.nonEmpty?_yields asked⟩,
        .inr ⟨⟨destination, ?_⟩, rfl⟩⟩
      exact ⟨destined, by simpa using linked, by simpa using refused, own⟩

/-- Linking a state, which is a resolution and where its identifiers come from,
over and over is linking it once when linking leaves what it has linked
alone. -/
theorem iterate_eq_of_settles {State : Type} {step : State → State}
    (state : State) (settles : step (step state) = step state) {count : ℕ}
    (positive : 0 < count) :
    step^[count] state = step state := by
  obtain ⟨more, rfl⟩ := Nat.exists_eq_add_one.mpr positive
  rw [Function.iterate_succ_apply]
  exact Function.iterate_fixed settles more

/-- Linking any number of times is linking once, with the identifiers of any
supply and with those of a source.  At most one identifier is asked for, and one
is exactly when the resolution becomes a half of a new transfer. -/
theorem iterate_link_eq_link (known : KnownAccounts) (resolution : Resolution)
    {count : ℕ} (positive : 0 < count) :
    (∀ (supply : IdSupply) (asked : ℕ),
      let linked := (fun state => state.1.linkFrom known supply state.2)^[count]
        (resolution, asked)
      linked = resolution.linkFrom known supply asked ∧ linked.2 ≤ asked + 1 ∧
        (linked.2 = asked + 1 ↔
          ∃ destination, Pairs known resolution destination)) ∧
      ∀ ids : IdSource,
        let linked := (fun state => state.1.link known state.2)^[count]
          (resolution, ids)
        linked = resolution.link known ids ∧ linked.2.issued ≤ ids.issued + 1 ∧
          resolution.link known ids =
            ((resolution.linkFrom known ids.supply ids.issued).1,
              { ids with issued := (resolution.linkFrom known ids.supply
                ids.issued).2 }) := by
  have taken : ∀ (supply : IdSupply) (asked : ℕ),
      (resolution.linkFrom known supply asked).2 ≤ asked + 1 ∧
        ((resolution.linkFrom known supply asked).2 = asked + 1 ↔
          ∃ destination, Pairs known resolution destination) := by
    intro supply asked
    rcases (linkFrom_cases known supply asked resolution).2
      with ⟨apart, none⟩ | ⟨pairs, one⟩
    · exact ⟨by omega, iff_of_false (by omega) apart⟩
    · exact ⟨by omega, iff_of_true one pairs⟩
  constructor
  · intro supply asked
    have settled := (linkFrom_cases known supply asked resolution).1
    have once : (fun state => state.1.linkFrom known supply state.2)^[count]
        (resolution, asked) = resolution.linkFrom known supply asked :=
      iterate_eq_of_settles (resolution, asked) (linkFrom_of_settled settled known supply _)
        positive
    rw [once]
    exact ⟨rfl, taken supply asked⟩
  · intro ids
    have settled : (resolution.link known ids).1.IsSettled :=
      (linkFrom_cases known ids.supply ids.issued resolution).1
    have once : (fun state => state.1.link known state.2)^[count]
        (resolution, ids) =
        resolution.link known ids :=
      iterate_eq_of_settles (resolution, ids) (link_of_settled settled known _)
        positive
    rw [once]
    exact ⟨rfl, (taken ids.supply ids.issued).1, rfl⟩

/-- Money that goes to the savings, from an account that is not known yet. -/
def putAside : Resolution where
  description := some "Put aside"
  amount := .ofInt 20
  type := "expense"
  source := "manual"
  original := ⟨none, none⟩
  transferTo := some "savings"

/-- Linked three times, the money becomes a half of one transfer where the
savings are known, and is left with one issue where they are not. -/
theorem iterate_link_eq_link_putAside :
    (∃ linked, (fun state => state.1.link (some ["savings"]) state.2)^[3]
        (putAside, .transfers) = linked ∧
      linked.1.transferId = some "transfer-1" ∧ linked.2.issued = 1) ∧
      ∃ linked, (fun state => state.1.link (some ["wallet"]) state.2)^[3]
          (putAside, .transfers) = linked ∧
        linked.1.transferTo = none ∧ linked.1.issues.length = 1 ∧
        linked.2.issued = 0 := by
  have paired := (iterate_link_eq_link (some ["savings"]) putAside three_pos).2
    .transfers
  have refused := (iterate_link_eq_link (some ["wallet"]) putAside three_pos).2
    .transfers
  exact ⟨⟨_, paired.1, by decide, by decide⟩, _,
    refused.1, by decide, by decide, by decide⟩

end Resolution

end LedgerRules
