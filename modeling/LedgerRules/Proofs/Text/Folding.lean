import LedgerRules.Text.CaseFold
import Mathlib

/-!
# Folding what is folded

Whatever a character folds to, be it one character or several, folds to itself:
no code point that folding gives is one that folding alters.  This is checked
once for the whole table, with both sets of code points as numbers in binary.
From there it passes to texts, which are folded character by character: folding
a text twice is folding it once.
-/

namespace LedgerRules

/-- The number whose binary digit at a code point is one when the code point is
listed. -/
def codeSet (codes : List Nat) : Nat :=
  codes.foldr (fun code set => set ||| 1 <<< code) 0

theorem testBit_codeSet {codes : List Nat} {code : Nat} :
    (codeSet codes).testBit code = true ↔ code ∈ codes := by
  induction codes with
  | nil => simp [codeSet]
  | cons first rest induction =>
      rw [codeSet, List.foldr_cons, ← codeSet, Nat.testBit_or, Bool.or_eq_true,
        induction, Nat.one_shiftLeft, Nat.testBit_two_pow, decide_eq_true_eq,
        List.mem_cons, or_comm,
        eq_comm]

theorem not_mem_of_codeSet {codes others : List Nat}
    (apart : codeSet codes &&& codeSet others = 0) {code : Nat}
    (member : code ∈ others) : code ∉ codes := by
  intro common
  have digit : (codeSet codes &&& codeSet others).testBit code = true := by
    rw [Nat.testBit_and, testBit_codeSet.mpr common, testBit_codeSet.mpr member,
      Bool.and_self]
  rw [apart, Nat.zero_testBit] at digit
  cases digit

namespace CaseRun

/-- The code points that a run moves. -/
def codes (run : CaseRun) : List Nat :=
  (List.range ((run.last - run.first) / run.stride + 1)).map fun index =>
    run.first + run.stride * index

/-- Where a run moves a code point. -/
def moved (run : CaseRun) (code : Nat) : Nat :=
  ((code : Int) + run.shift).toNat

theorem mem_codes {run : CaseRun} {code : Nat} (above : run.first ≤ code)
    (below : code ≤ run.last) (onStride : (code - run.first) % run.stride = 0) :
    code ∈ run.codes := by
  have whole := Nat.div_add_mod (code - run.first) run.stride
  have within : (code - run.first) / run.stride ≤ (run.last - run.first) /
      run.stride :=
    Nat.div_le_div_right (by omega)
  apply List.mem_map.mpr
  refine ⟨(code - run.first) / run.stride, List.mem_range.mpr (by omega), ?_⟩
  omega

theorem apply_cases (code : Nat) (runs : List CaseRun) :
    apply code runs = code ∨
      ∃ run ∈ runs, code ∈ run.codes ∧ apply code runs = run.moved code := by
  induction runs with
  | nil => exact .inl rfl
  | cons run rest induction =>
      rw [apply]
      split
      case isTrue => exact .inl rfl
      case isFalse reached =>
        split
        case isTrue inside =>
          rw [Bool.and_eq_true, decide_eq_true_eq, decide_eq_true_eq] at inside
          obtain ⟨below, onStride⟩ := inside
          exact .inr ⟨run, List.mem_cons_self,
            mem_codes (not_lt.mp reached) below onStride, rfl⟩
        case isFalse =>
          rcases induction with kept | ⟨other, member, moves⟩
          · exact .inl kept
          · exact .inr ⟨other, List.mem_cons_of_mem run member, moves⟩

end CaseRun

/-- The code points that folding may alter. -/
def alteredCodes : List Nat :=
  foldRuns.flatMap CaseRun.codes ++ longFolds.map Prod.fst

/-- The code points that others fold to. -/
def foldedCodes : List Nat :=
  foldRuns.flatMap (fun run => run.codes.map run.moved) ++
    longFolds.flatMap Prod.snd

theorem alteredCodes_apart_foldedCodes :
    codeSet alteredCodes &&& codeSet foldedCodes = 0 := by
  decide +kernel

theorem foldCode_of_not_mem {code : Nat} (unaltered : code ∉ alteredCodes) :
    foldCode code = [code] := by
  rw [alteredCodes, List.mem_append, not_or] at unaltered
  obtain ⟨outsideRuns, noKey⟩ := unaltered
  unfold foldCode
  split
  case h_1 folded found =>
    exact (noKey
      (List.mem_map.mpr ⟨(code, folded), mem_of_lookUpCode found, rfl⟩)).elim
  case h_2 =>
    rcases CaseRun.apply_cases code foldRuns with kept | ⟨run, member, inRun, _⟩
    · rw [kept]
    · exact (outsideRuns (List.mem_flatMap.mpr ⟨run, member, inRun⟩)).elim

private theorem foldCode_cases (code : Nat) :
    foldCode code = [code] ∨ ∀ folded ∈ foldCode code,
      folded ∈ foldedCodes := by
  unfold foldCode
  split
  case h_1 several found =>
    refine .inr fun folded member => List.mem_append.mpr (.inr ?_)
    exact List.mem_flatMap.mpr
      ⟨(code, several), mem_of_lookUpCode found, member⟩
  case h_2 =>
    rcases CaseRun.apply_cases code foldRuns
      with kept | ⟨run, member, inRun, moves⟩
    · rw [kept]
      exact .inl rfl
    · refine .inr fun folded single => List.mem_append.mpr (.inl ?_)
      rw [List.mem_singleton.mp single, moves]
      exact List.mem_flatMap.mpr
        ⟨run, member, List.mem_map.mpr ⟨code, inRun, rfl⟩⟩

private theorem foldCode_of_mem {code folded : Nat}
    (member : folded ∈ foldCode code) :
    foldCode folded = [folded] := by
  rcases foldCode_cases code with kept | altered
  · rw [kept, List.mem_singleton] at member
    rw [member, kept]
  · apply foldCode_of_not_mem
    exact not_mem_of_codeSet alteredCodes_apart_foldedCodes
      (altered folded member)

theorem foldCharacter_ofNat {code : Nat} (folded : foldCode code = [code]) :
    foldCharacter (Char.ofNat code) = [Char.ofNat code] := by
  unfold foldCharacter
  rw [Char.toNat_ofNat]
  split
  case isTrue => rw [folded, List.map_singleton]
  case isFalse invalid =>
    -- The null character stands in for a code point without a character.
    have null : Char.ofNat code = Char.ofNat 0 := dif_neg invalid
    rw [null]
    rfl

theorem foldCharacter_of_mem {character folded : Char}
    (member : folded ∈ foldCharacter character) :
    foldCharacter folded = [folded] := by
  obtain ⟨code, inFold, rfl⟩ := List.mem_map.mp member
  exact foldCharacter_ofNat (foldCode_of_mem inFold)

@[simp] theorem foldList_foldList (characters : List Char) :
    foldList (foldList characters) = foldList characters := by
  have folded : ∀ character ∈ foldList characters,
      foldCharacter character = [character] := by
    intro character member
    obtain ⟨_, _, inFold⟩ := List.mem_flatMap.mp member
    exact foldCharacter_of_mem inFold
  calc foldList (foldList characters)
      = (foldList characters).flatMap fun character => [character] :=
        List.flatMap_congr folded
    _ = foldList characters := List.flatMap_singleton' _

@[simp] theorem toList_foldCase (text : String) :
    (foldCase text).toList = foldList text.toList :=
  String.toList_ofList

/-- A part of a text folds to a part of the folded text. -/
theorem foldList_infix {part whole : List Char} (inside : part <:+: whole) :
    foldList part <:+: foldList whole := by
  obtain ⟨front, back, rfl⟩ := inside
  rw [foldList_append, foldList_append]
  exact ⟨foldList front, foldList back, rfl⟩

end LedgerRules
