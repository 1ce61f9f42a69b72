import LedgerRules.Proofs.Rule.Matching
import LedgerRules.Proofs.Text.Folding

/-!
# Conditions that look for terms

A condition on the raw text or on the description holds when the text mentions
one of its terms, and what a text mentions is decided after folding both.  So
folding text or terms beforehand changes nothing, nor does another order of the
terms or a repeated one, and what a text mentions is mentioned by every text
around it.
-/

namespace LedgerRules

@[simp] theorem foldCase_foldCase (text : String) :
    foldCase (foldCase text) = foldCase text := by
  apply String.toList_injective
  rw [toList_foldCase, toList_foldCase, foldList_foldList]

theorem Mentions.mono {part whole term : String} (mentions : Mentions part term)
    (inside : part.toList <:+: whole.toList) : Mentions whole term := by
  apply List.IsInfix.trans mentions
  exact foldList_infix inside

theorem containsAny_foldCase (text : String) (terms : List String) :
    containsAny (foldCase text) terms = containsAny text terms := by
  rw [containsAny, toList_foldCase, foldList_foldList, containsAny]

theorem containsAny_map_foldCase (text : String) (terms : List String) :
    containsAny text (terms.map foldCase) = containsAny text terms := by
  simp [containsAny, List.any_map, Function.comp_def]

/-- Each of some terms is left as it is or folded. -/
def FoldedAtWill (terms others : List String) : Prop :=
  List.Forall₂ (fun term other => other = term ∨ other = foldCase term) terms
    others

theorem FoldedAtWill.map_foldCase_eq {terms others : List String}
    (folded : FoldedAtWill terms others) :
    others.map foldCase = terms.map foldCase := by
  induction folded with
  | nil => rfl
  | cons first _ induction =>
      rw [List.map_cons, List.map_cons, induction]
      rcases first with rfl | rfl
      · rfl
      · rw [foldCase_foldCase]

/-- The texts of a candidate that terms are looked for in. -/
inductive TextField where
  | rawText
  | description
deriving DecidableEq, Repr

namespace TextField

/-- The condition that the text mentions one of the terms. -/
def mentionsAny : TextField → List String → Condition
  | rawText => .rawTextContains
  | description => .descriptionContains

/-- A candidate with the given text in the field. -/
def put (field : TextField) (text : String) (candidate : Candidate) :
    Candidate :=
  match field with
  | rawText => { candidate with rawText := some text }
  | description => { candidate with description := some text }

theorem holds_mentionsAny (field : TextField) (terms : List String)
    (text : String) (candidate : Candidate) :
    (field.mentionsAny terms).holds (field.put text candidate) =
      .ok (containsAny text terms) := by
  cases field with
  | rawText => rfl
  | description => rfl

end TextField

/-- How terms are looked for in texts without regard to case. -/
structure LooksFor
    (answer : List String → String → Except Incomparable Bool) : Prop where
  /-- There always is an answer, and it is whether a term is mentioned. -/
  answers : ∀ terms text, ∃ mentioned, answer terms text = .ok mentioned ∧
    (mentioned = true ↔ ∃ term ∈ terms, Mentions text term)
  foldedText : ∀ terms text, answer terms (foldCase text) = answer terms text
  foldedTerms : ∀ terms others text, FoldedAtWill terms others →
    answer others text = answer terms text
  sameTerms : ∀ terms others text, (∀ term, term ∈ others ↔ term ∈ terms) →
    answer others text = answer terms text
  inWhole : ∀ terms part whole, part.toList <:+: whole.toList →
    answer terms part = .ok true → answer terms whole = .ok true

/-- Conditions on the raw text and on the description look for their terms
without regard to case. -/
theorem TextField.looksFor (field : TextField) (candidate : Candidate) :
    LooksFor fun terms text => (field.mentionsAny terms).holds
      (field.put text candidate) := by
  simp only [holds_mentionsAny]
  constructor
  case answers =>
    intro terms text
    exact ⟨containsAny text terms, rfl, containsAny_iff⟩
  case foldedText =>
    intro terms text
    rw [containsAny_foldCase]
  case foldedTerms =>
    intro terms others text folded
    rw [← containsAny_map_foldCase text others, folded.map_foldCase_eq,
      containsAny_map_foldCase]
  case sameTerms =>
    intro terms others text same
    rw [containsAny_congr fun term => same term]
  case inWhole =>
    intro terms part whole inside held
    rw [Except.ok.injEq, containsAny_iff] at held ⊢
    obtain ⟨term, member, mentions⟩ := held
    exact ⟨term, member, mentions.mono inside⟩

/-- A candidate without texts. -/
def wordless : Candidate where
  description := none
  amount := .ofInt 5

/-- A sharp s folds to two letters.  The street is found by its name in capital
letters, and so it is in a text around it, by the folded terms, turned around
and repeated. -/
theorem looksFor_street :
    FoldedAtWill ["Weg", "STRASSE"] ["Weg", "strasse"] ∧
      (∀ term, term ∈ ["strasse", "Weg", "Weg"] ↔ term ∈ ["Weg", "strasse"]) ∧
      "Hauptstraße".toList <:+: "Miete Hauptstraße 5".toList ∧
      (Condition.rawTextContains ["Weg", "STRASSE"]).holds
        { wordless with rawText := some "Hauptstraße" } = .ok true ∧
      (Condition.rawTextContains ["strasse", "Weg", "Weg"]).holds
        { wordless with rawText := some "Miete Hauptstraße 5" } = .ok true := by
  have folded : FoldedAtWill ["Weg", "STRASSE"] ["Weg", "strasse"] :=
    .cons (.inl rfl) (.cons (.inr (by decide +kernel)) .nil)
  have same : ∀ term, term ∈ ["strasse", "Weg", "Weg"] ↔
      term ∈ ["Weg", "strasse"] := by
    intro term
    simp [or_comm]
  have inside : "Hauptstraße".toList <:+: "Miete Hauptstraße 5".toList :=
    ⟨"Miete ".toList, " 5".toList, by decide +kernel⟩
  have found : (Condition.rawTextContains ["Weg", "STRASSE"]).holds
      { wordless with rawText := some "Hauptstraße" } = .ok true := by
      decide +kernel
  have laws := TextField.rawText.looksFor wordless
  have foundFolded := (laws.foldedTerms _ _ "Hauptstraße" folded).trans found
  have foundAgain := (laws.sameTerms _ _ "Hauptstraße" same).trans foundFolded
  exact ⟨folded, same, inside, found, laws.inWhole _ _ _ inside foundAgain⟩

end LedgerRules
