import LedgerRules.Proofs.Payload.Stated

/-!
# Rearranged conditions

The fields of an object may stand in another order, and so may the terms and the
sources that it lists, each of them once or several times.  A rearranged object
is accepted when the first one is, and it is read as the same conditions up to
that.
-/

namespace LedgerRules

namespace Payload

/-- The names under which terms or sources are listed. -/
def listNames : List String :=
  ["raw_text_contains", "description_contains", "source"]

/-- A value that says the same as another one under a name: the same value, or a
list of the same terms or sources. -/
inductive SaysSame (name : String) : Json → Json → Prop where
  | same (value : Json) : SaysSame name value value
  | listed {items others : List Json} (lists : name ∈ listNames)
      (members : ∀ item, item ∈ others ↔ item ∈ items) :
        SaysSame name (.arr items) (.arr others)

/-- An object whose names stand once, and one with its fields in another order
and with values that say the same. -/
structure Rearranges (fields others : Fields) : Prop where
  distinct : (fields.map Prod.fst).Nodup
  reordered : ∃ ordered : Fields, ordered.Perm fields ∧
    List.Forall₂
      (fun field other => other.1 = field.1 ∧ SaysSame field.1 field.2 other.2)
      ordered others

section LookUp

variable {fields others ordered : Fields}

theorem lookUp_eq_some_iff (distinct : (fields.map Prod.fst).Nodup)
    {name : String} {value : Json} :
    Json.lookUp name fields = some value ↔ (name, value) ∈ fields := by
  induction fields with
  | nil => simp [Json.lookUp]
  | cons field rest induction =>
      obtain ⟨key, first⟩ := field
      rw [List.map_cons, List.nodup_cons] at distinct
      rw [Json.lookUp, List.mem_cons, Prod.mk.injEq]
      split
      case isTrue same =>
        subst same
        have absent : (key, value) ∉ rest := fun member =>
          distinct.1 (List.mem_map.mpr ⟨(key, value), member, rfl⟩)
        simp [absent, eq_comm]
      case isFalse apart => simp [induction distinct.2, Ne.symm apart]

theorem lookUp_of_perm (distinct : (fields.map Prod.fst).Nodup)
    (perm : ordered.Perm fields) (name : String) :
    Json.lookUp name ordered = Json.lookUp name fields := by
  have orderedDistinct : (ordered.map Prod.fst).Nodup :=
    (perm.map Prod.fst).nodup_iff.mpr distinct
  ext value
  rw [lookUp_eq_some_iff orderedDistinct, lookUp_eq_some_iff distinct,
    perm.mem_iff]

theorem lookUp_of_forall₂
    (pairs : List.Forall₂
      (fun field other => other.1 = field.1 ∧ SaysSame field.1 field.2 other.2)
        ordered others)
    (name : String) :
    Option.Rel (SaysSame name) (Json.lookUp name ordered)
      (Json.lookUp name others) := by
  induction pairs with
  | nil => exact .none
  | @cons field other _ _ pair _ induction =>
      obtain ⟨key, value⟩ := field
      obtain ⟨otherKey, otherValue⟩ := other
      obtain ⟨rfl, sameSaid⟩ := pair
      rw [Json.lookUp, Json.lookUp]
      split
      case isTrue same =>
        subst same
        exact .some sameSaid
      case isFalse => exact induction

end LookUp

namespace Rearranges

variable {fields others : Fields}

theorem lookUp (rearranges : Rearranges fields others) (name : String) :
    Option.Rel (SaysSame name) (Json.lookUp name fields)
      (Json.lookUp name others) := by
  obtain ⟨ordered, perm, pairs⟩ := rearranges.reordered
  rw [← lookUp_of_perm rearranges.distinct perm]
  exact lookUp_of_forall₂ pairs name

theorem stated (rearranges : Rearranges fields others) (name : String) :
    Option.Rel (SaysSame name) (stated? name fields) (stated? name others) := by
  have found := rearranges.lookUp name
  unfold stated?
  generalize Json.lookUp name fields = value?, Json.lookUp name others = other?
    at found
  cases found with
  | none => exact .none
  | @some value _ sameSaid =>
      cases sameSaid with
      | listed lists members => exact .some (.listed lists members)
      | same =>
          cases value with
          | null => exact .none
          | _ => exact .some (.same _)

theorem stated?_eq (rearranges : Rearranges fields others) {name : String}
    (single : name ∉ listNames) :
    stated? name others = stated? name fields := by
  have found := rearranges.stated name
  generalize stated? name fields = value?, stated? name others = other? at found
  cases found with
  | none => rfl
  | some sameSaid =>
      cases sameSaid with
      | same => rfl
      | listed lists => exact (single lists).elim

theorem statedRange?_eq (rearranges : Rearranges fields others) :
    statedRange? others = statedRange? fields := by
  rw [statedRange?, statedRange?, rearranges.stated?_eq (by decide),
    rearranges.stated?_eq (by decide), rearranges.stated?_eq (by decide)]

end Rearranges

/-- Lists of the same texts, in whatever order and number. -/
def SameTexts (values others : List String) : Prop :=
  ∀ value, value ∈ others ↔ value ∈ values

/-- Conditions with the same terms and sources, and the same in everything
else. -/
structure Conditions.Resembles (conditions others : Conditions) : Prop where
  rawTextContains : Option.Rel SameTexts conditions.rawTextContains
    others.rawTextContains
  descriptionContains :
    Option.Rel SameTexts conditions.descriptionContains
      others.descriptionContains
  source : Option.Rel SameTexts conditions.source others.source
  rest : others = { conditions with
    rawTextContains := others.rawTextContains
    descriptionContains := others.descriptionContains
    source := others.source }

theorem exists_texts_of_sameItems {values : List String} {items : List Json}
    (members : ∀ item, item ∈ items ↔ item ∈ values.map Json.str) :
    ∃ others, items = others.map .str ∧ SameTexts values others := by
  have texts : items ∈ Set.range (List.map Json.str) := by
    rw [Set.range_list_map]
    intro item member
    obtain ⟨value, _, same⟩ := List.mem_map.mp ((members item).mp member)
    exact ⟨value, same⟩
  obtain ⟨others, rfl⟩ := texts
  refine ⟨others, rfl, fun value => ?_⟩
  simpa using members (.str value)

theorem Rearranges.readsAs_texts {fields others : Fields}
    (rearranges : Rearranges fields others) {name : String}
    {values? : Option (List String)}
    (reads : ReadsAs (list text) (stated? name fields) values?) :
    ∃ others?, ReadsAs (list text) (stated? name others) others? ∧
      Option.Rel SameTexts values? others? := by
  have found := rearranges.stated name
  generalize stated? name fields = given?, stated? name others = other?
    at found reads
  cases reads with
  | none =>
      cases found
      exact ⟨none, .none, .none⟩
  | @some given values accepted =>
      cases found with
      | some sameSaid =>
          cases sameSaid with
          | same => exact ⟨some values, .some accepted, .some fun _ => Iff.rfl⟩
          | listed lists members =>
              cases list_text_eq_accepted_iff.mp accepted
              obtain ⟨others, rfl, same⟩ := exists_texts_of_sameItems members
              exact ⟨some others, .some (list_text_texts others), .some same⟩

theorem Rearranges.readsAs {Value : Type} {fields others : Fields}
    (rearranges : Rearranges fields others) {name : String}
    (single : name ∉ listNames) {check : Check Value} {value? : Option Value}
    (reads : ReadsAs check (stated? name fields) value?) :
    ReadsAs check (stated? name others) value? := by
  rw [rearranges.stated?_eq single]
  exact reads

theorem Rearranges.exists_reads {fields others : Fields}
    (rearranges : Rearranges fields others) {conditions : Conditions}
    (reads : Conditions.Reads fields conditions) :
    ∃ found, Conditions.Reads others found ∧ conditions.Resembles found := by
  obtain ⟨rawText?, rawTextReads, sameRawText⟩ :=
    rearranges.readsAs_texts reads.rawTextContains
  obtain ⟨description?, descriptionReads, sameDescription⟩ :=
    rearranges.readsAs_texts reads.descriptionContains
  obtain ⟨source?, sourceReads, sameSource⟩ :=
    rearranges.readsAs_texts reads.source
  have known : ∀ name ∉ "amount_min" :: "amount_max" :: Conditions.names,
      Json.lookUp name others = none := by
    intro name unknown
    have absent := rearranges.lookUp name
    rw [reads.known name unknown] at absent
    generalize Json.lookUp name others = found at absent
    cases absent
    rfl
  refine ⟨{ conditions with
    rawTextContains := rawText?, descriptionContains := description?,
    source := source? },
    ?_, ⟨sameRawText, sameDescription, sameSource, rfl⟩⟩
  exact {
    known
    rawTextContains := rawTextReads
    descriptionContains := descriptionReads
    descriptionPattern :=
      rearranges.readsAs (by decide) reads.descriptionPattern
    amountBetween := by
      rw [rearranges.statedRange?_eq]
      exact reads.amountBetween
    amountEquals := rearranges.readsAs (by decide) reads.amountEquals
    source := sourceReads
    type := rearranges.readsAs (by decide) reads.type
    fromAccount := rearranges.readsAs (by decide) reads.fromAccount
    toAccount := rearranges.readsAs (by decide) reads.toAccount
    category := rearranges.readsAs (by decide) reads.category }

end Payload

end LedgerRules
