import LedgerRules.Number.Numeral
import LedgerRules.Proofs.Number.Nearest
import LedgerRules.Store.Row

/-!
# Amounts that are read back

A number that is written with digits on both sides of a point is read back as it
was written.  A stored amount has a bounded number of digits and is shown with
four places, so what is shown of it can be read again.
-/

namespace LedgerRules

theorem digitsValue_eq_ofDigitChars (digits : List Char) :
    digitsValue digits = Nat.ofDigitChars 10 digits 0 := rfl

/-- A character that reading a number neither drops nor changes. -/
structure Unaltered (character : Char) : Prop where
  notBlank : isBlank character = false
  notLowLine : character ≠ '_'
  plain : Decimal.plainDigit character = character

instance (character : Char) : Decidable (Unaltered character) :=
  decidable_of_iff (isBlank character = false ∧ character ≠ '_' ∧
      Decimal.plainDigit character = character)
    ⟨fun ⟨notBlank, notLowLine, plain⟩ => ⟨notBlank, notLowLine, plain⟩,
      fun ⟨notBlank, notLowLine, plain⟩ => ⟨notBlank, notLowLine, plain⟩⟩

theorem unaltered_of_isAsciiDigit {digit : Char}
    (isDigit : isAsciiDigit digit = true) :
    Unaltered digit := by
  have bounds : 48 ≤ digit.toNat ∧ digit.toNat ≤ 57 := by
    simpa [isAsciiDigit, Char.le_def, UInt32.le_iff_toNat_le] using isDigit
  have value : digitValue? digit.toNat = some (digit.toNat - 48) := by
    have zeros : digitZeros = 48 :: digitZeros.tail := rfl
    rw [digitValue?, zeros, digitValueFrom, if_neg (by omega),
      if_pos (by omega)]
  constructor
  · simp [isBlank, isWhiteSpace, inRanges, whiteSpaceRanges]
    omega
  · rintro rfl
    exact absurd isDigit (by decide)
  · simp only [Decimal.plainDigit, value, Nat.add_sub_cancel' bounds.1,
      Char.ofNat_toNat]

theorem trimList_eq_self {Element : Type} {test : Element → Bool}
    {elements : List Element}
    (passes : ∀ element ∈ elements, test element = false) :
    trimList test elements = elements := by
  have untouched : ∀ others : List Element,
      (∀ other ∈ others, test other = false) →
      others.dropWhile test = others := by
    intro others fails
    rw [List.dropWhile_eq_self_iff]
    intro positive
    rw [fails _ (List.getElem_mem positive)]
    exact Bool.false_ne_true
  rw [trimList, untouched elements passes, untouched, List.reverse_reverse]
  intro other member
  exact passes other (List.mem_reverse.mp member)

/-- Digits before and behind a point. -/
structure PointedDigits (whole fraction : List Char) : Prop where
  nonempty : whole ≠ []
  whole : ∀ digit ∈ whole, isAsciiDigit digit = true
  fraction : ∀ digit ∈ fraction, isAsciiDigit digit = true

section Pointed

variable {whole fraction : List Char}

theorem readUnsigned?_pointed (pointed : PointedDigits whole fraction) :
    readUnsigned? (whole ++ '.' :: fraction) =
      some (digitsValue (whole ++ fraction), -(fraction.length : Int)) := by
  have wholeTaken : (whole ++ '.' :: fraction).takeWhile isAsciiDigit =
      whole := by
    rw [List.takeWhile_append_of_pos pointed.whole]
    exact List.append_nil whole
  have wholeDropped : (whole ++ '.' :: fraction).dropWhile isAsciiDigit =
      '.' :: fraction := by
    rw [List.dropWhile_append_of_pos pointed.whole]
    rfl
  have fractionTaken := List.takeWhile_eq_self_iff.mpr pointed.fraction
  have fractionDropped := List.dropWhile_eq_nil_iff.mpr pointed.fraction
  have someDigits : whole.isEmpty = false := by
    simpa [List.isEmpty_eq_false_iff] using pointed.nonempty
  unfold readUnsigned?
  simp only [wholeTaken, wholeDropped, fractionTaken, fractionDropped,
    someDigits, Bool.false_and, Bool.false_eq_true, if_false, readPower?,
    Option.map_some, Int.zero_sub]

theorem unaltered_pointed (pointed : PointedDigits whole fraction) :
    ∀ character ∈ whole ++ '.' :: fraction, Unaltered character := by
  intro character member
  rcases List.mem_append.mp member with here | behind
  · exact unaltered_of_isAsciiDigit (pointed.whole character here)
  · rcases List.mem_cons.mp behind with rfl | here
    · decide +kernel
    · exact unaltered_of_isAsciiDigit (pointed.fraction character here)

theorem splitSign_pointed (pointed : PointedDigits whole fraction) :
    splitSign (whole ++ '.' :: fraction) =
      (false, whole ++ '.' :: fraction) := by
  obtain ⟨first, rest, rfl⟩ := List.exists_cons_of_ne_nil pointed.nonempty
  have isDigit := pointed.whole first List.mem_cons_self
  unfold splitSign
  split
  case h_1 same =>
    cases same
    exact absurd isDigit (by decide)
  case h_2 same =>
    cases same
    exact absurd isDigit (by decide)
  case h_3 => rfl

private theorem read?_pointed (pointed : PointedDigits whole fraction)
    (fits : Decimal.leastExponent ≤ -(fraction.length : Int) ∧
      Decimal.adjusted (digitsValue (whole ++ fraction))
      (-(fraction.length : Int)) ≤ Decimal.greatestExponent)
    (negative : Bool) :
    Decimal.read? ((if negative then
      "-" else "") ++ String.ofList (whole ++ '.' :: fraction)) =
      some (.finite negative (digitsValue (whole ++ fraction))
        (-(fraction.length : Int))) := by
  have characters : ((if negative then "-" else "") ++
      String.ofList (whole ++ '.' :: fraction)).toList =
      (if negative then ['-'] else []) ++ (whole ++ '.' :: fraction) := by
    cases negative <;> simp
  have unaltered :
      ∀ character ∈ (if negative then ['-'] else []) ++
      (whole ++ '.' :: fraction),
      Unaltered character := by
    intro character member
    rcases List.mem_append.mp member with sign | behind
    · cases negative with
      | false => cases sign
      | true =>
          rw [List.mem_singleton.mp sign]
          decide +kernel
    · exact unaltered_pointed pointed character behind
  have signs : splitSign ((if negative then
    ['-'] else []) ++ (whole ++ '.' :: fraction)) =
      (negative, whole ++ '.' :: fraction) := by
    cases negative with
    | false => exact splitSign_pointed pointed
    | true => rfl
  unfold Decimal.read?
  rw [characters, trimList_eq_self fun character member =>
    (unaltered character member).notBlank,
    List.filter_eq_self.mpr fun character member => by
      simpa using (unaltered character member).notLowLine,
    List.map_congr_left fun character member =>
      (unaltered character member).plain, List.map_id']
  simp only [signs, readUnsigned?_pointed pointed, fits.1, fits.2, decide_true,
    Bool.and_self, if_true]

end Pointed

/-- The digits of a number behind as many zeros as are wanted. -/
def padded (zeros coefficient : Nat) : List Char :=
  List.replicate zeros '0' ++ Nat.toDigits 10 coefficient

theorem isAsciiDigit_of_mem_padded {zeros coefficient : Nat} :
    ∀ digit ∈ padded zeros coefficient, isAsciiDigit digit = true := by
  intro digit member
  rcases List.mem_append.mp member with zero | written
  · rw [List.eq_of_mem_replicate zero]
    decide
  · exact Nat.isDigit_of_mem_toDigits (by decide) (by decide) written

theorem digitsValue_padded (zeros coefficient : Nat) :
    digitsValue (padded zeros coefficient) = coefficient := by
  rw [digitsValue_eq_ofDigitChars, padded, Nat.ofDigitChars_append,
    Nat.ofDigitChars_replicate_zero, Nat.mul_zero,
    Nat.ofDigitChars_ten_toDigits]

theorem pointedDigits_take_drop {digits : List Char}
    (allDigits : ∀ digit ∈ digits, isAsciiDigit digit = true) {before : Nat}
    (some : 0 < before) (inside : before ≤ digits.length) :
    PointedDigits (digits.take before) (digits.drop before) where
  nonempty empty := by
    have none := congrArg List.length empty
    rw [List.length_take, List.length_nil] at none
    omega
  whole digit member := allDigits digit (List.mem_of_mem_take member)
  fraction digit member := allDigits digit (List.mem_of_mem_drop member)

private theorem withPoint_eq (coefficient places : Nat) :
    ∃ whole fraction, PointedDigits whole fraction ∧ fraction.length = places ∧
      digitsValue (whole ++ fraction) = coefficient ∧
      Decimal.withPoint (toString coefficient) places =
        String.ofList (whole ++ '.' :: fraction) := by
  obtain ⟨zeros, filled⟩ : ∃ zeros,
      zeros = places + 1 - (Nat.toDigits 10 coefficient).length := ⟨_, rfl⟩
  have long : places < (padded zeros coefficient).length := by
    rw [padded, List.length_append, List.length_replicate]
    omega
  have text : toString coefficient =
      String.ofList (Nat.toDigits 10 coefficient) :=
    Nat.toString_eq_ofList_toDigits
  have shown :
      String.ofList
      (List.replicate (places + 1 - (toString coefficient).length) '0') ++
      toString coefficient = String.ofList (padded zeros coefficient) := by
    rw [text, String.length_ofList, ← filled, padded, String.ofList_append]
  refine ⟨(padded zeros coefficient).take
    ((padded zeros coefficient).length - places),
    (padded zeros coefficient).drop
    ((padded zeros coefficient).length - places),
    pointedDigits_take_drop isAsciiDigit_of_mem_padded (by omega) (by omega),
      ?_, ?_, ?_⟩
  · rw [List.length_drop]
    omega
  · rw [List.take_append_drop]
    exact digitsValue_padded zeros coefficient
  · have point : "." = String.ofList ['.'] := rfl
    unfold Decimal.withPoint
    simp only [shown, String.toList_ofList, String.length_ofList, point,
      ← String.ofList_append, List.append_assoc, List.singleton_append]

namespace Decimal

private theorem text_places (negative : Bool) (coefficient : Nat) {places : Nat}
    (some : 0 < places) (few : places ≤ 6) :
    text (.finite negative coefficient (-(places : Int))) =
      (if negative then "-" else "") ++ withPoint (toString coefficient)
        places := by
  have shown :
      (-(places : Int) ≤ 0 && -6 ≤ adjusted coefficient (-(places : Int))) =
      true := by
    have leading : -(places : Int) ≤ adjusted coefficient
        (-(places : Int)) := by
      unfold adjusted
      omega
    simp only [Bool.and_eq_true, decide_eq_true_eq]
    omega
  have pointed : -(places : Int) ≠ 0 := by omega
  simp only [text, finiteText, shown, if_true, pointed, if_false, Int.neg_neg,
    Int.toNat_natCast]

/-- A number with a few places is read back from its text, unless it has too
many digits. -/
theorem read?_text_places (negative : Bool) {coefficient places : Nat}
    (some : 0 < places) (few : places ≤ 6)
    (fits : adjusted coefficient (-(places : Int)) ≤ greatestExponent) :
    read? (text (.finite negative coefficient (-(places : Int)))) =
      .some (.finite negative coefficient (-(places : Int))) := by
  obtain ⟨whole, fraction, pointed, length, value, written⟩ :=
    withPoint_eq coefficient places
  subst length
  subst value
  rw [text_places negative _ some few, written]
  refine read?_pointed pointed ⟨?_, fits⟩ negative
  unfold leastExponent
  omega

end Decimal

namespace Double

/-- A double that is not finite, or that has at most 53 bits in units that are
not past the greatest ones. -/
def IsBounded : Double → Prop
  | .finite _ significand exponent =>
      significand ≤ 2 ^ 53 ∧ exponent ≤ greatestExponent
  | _ => True

theorem isBounded_pack {significand : Nat} (negative : Bool)
    (short : significand ≤ 2 ^ 53) (exponent : Int) :
    IsBounded (pack negative significand exponent) := by
  unfold pack
  split
  case isTrue => trivial
  case isFalse below => exact ⟨short, Int.not_lt.mp below⟩

theorem roundHalfEven_le (numerator denominator : Nat) :
    roundHalfEven numerator denominator ≤ numerator / denominator + 1 := by
  unfold roundHalfEven
  dsimp only
  split
  · omega
  · split <;> omega

theorem isBounded_ofQuotient (negative : Bool) (numerator : Nat)
    {denominator : Nat} (positive : 0 < denominator) :
    IsBounded (ofQuotient negative numerator denominator) := by
  unfold ofQuotient
  split
  case isTrue => exact ⟨Nat.zero_le _, by decide⟩
  case isFalse nonzero =>
    have isExponent := isExponentOf_exponentOf (Nat.pos_of_ne_zero nonzero)
      positive
    have short := (@scaled_div_lt_iff numerator denominator positive _).mpr
      isExponent.below
    have rounded := roundHalfEven_le (scaled numerator denominator
      (exponentOf numerator denominator)).1 (scaled numerator denominator
      (exponentOf numerator denominator)).2
    dsimp only
    split
    · exact isBounded_pack negative (by decide) _
    · exact isBounded_pack negative (rounded.trans (Nat.succ_le_of_lt short)) _

theorem isBounded_toDouble (decimal : Decimal) :
    IsBounded decimal.toDouble := by
  cases decimal with
  | infinite negative => trivial
  | nan negative signalling payload => trivial
  | finite negative coefficient exponent =>
      rw [Decimal.toDouble_finite]
      split
      · exact ⟨Nat.zero_le _, by decide⟩
      · split
        · trivial
        · exact isBounded_ofQuotient negative _
            (Decimal.quotient_snd_pos coefficient exponent)

theorem IsBounded.unsignedZero {double : Double} (bounded : IsBounded double) :
    IsBounded double.unsignedZero := by
  cases double with
  | finite negative significand exponent =>
      cases significand with
      | zero => exact bounded
      | succ significand => exact bounded
  | _ => trivial

end Double

private theorem readBack_of_isBounded {negative : Bool} {significand : Nat}
    {exponent : Int}
    (bounded : Double.IsBounded (.finite negative significand exponent)) :
    ∃ coefficient, readBack (.finite negative significand exponent) =
        .finite negative coefficient (-(storedPlaces : Int)) ∧
        coefficient < 10 ^ 400 := by
  obtain ⟨short, below⟩ := bounded
  refine ⟨_, rfl, ?_⟩
  have scaled : significand * Nat.pow 10 storedPlaces ≤ 2 ^ 53 * 10 ^ 4 :=
    Nat.mul_le_mul_right _ short
  split
  case isTrue =>
    calc
      roundHalfEven (significand * Nat.pow 10 storedPlaces)
        (1 <<< (-exponent).toNat) ≤
          significand * Nat.pow 10 storedPlaces / (1 <<< (-exponent).toNat) +
            1 :=
        Double.roundHalfEven_le _ _
      _ ≤ significand * Nat.pow 10 storedPlaces + 1 :=
        Nat.succ_le_succ (Nat.div_le_self _ _)
      _ ≤ 2 ^ 53 * 10 ^ 4 + 1 := Nat.succ_le_succ scaled
      _ < 10 ^ 400 := by decide +kernel
  case isFalse =>
    have few : exponent.toNat ≤ 971 := by
      unfold Double.greatestExponent at below
      omega
    rw [Nat.shiftLeft_eq]
    calc
      significand * Nat.pow 10 storedPlaces * 2 ^ exponent.toNat ≤
          2 ^ 53 * 10 ^ 4 * 2 ^ 971 :=
        Nat.mul_le_mul scaled (Nat.pow_le_pow_right (by norm_num) few)
      _ < 10 ^ 400 := by decide +kernel

theorem decimalLength_le {number length : Nat} (below : number < 10 ^ length) :
    decimalLength number ≤ length := by
  rcases Nat.eq_zero_or_pos number with rfl | positive
  · rw [decimalLength, if_pos rfl]
    exact Nat.zero_le length
  · rw [decimalLength_eq_log positive]
    exact Nat.log_lt_of_lt_pow positive.ne' below

/-- The text of a stored amount that is finite reads back as what is shown. -/
theorem read?_readBack {amount : Double} (bounded : amount.IsBounded)
    (finite : amount.isFinite = true) :
    Decimal.read? (readBack amount).text = some (readBack amount) ∧
      (readBack amount).isFinite = true := by
  cases amount with
  | nan => cases finite
  | infinite negative => cases finite
  | finite negative significand exponent =>
      obtain ⟨coefficient, shown, below⟩ := readBack_of_isBounded bounded
      have length := decimalLength_le below
      have fits : Decimal.adjusted coefficient (-(storedPlaces : Int)) ≤
          Decimal.greatestExponent := by
        unfold Decimal.adjusted Decimal.greatestExponent storedPlaces
        omega
      rw [shown]
      exact ⟨Decimal.read?_text_places negative (by decide) (by decide) fits,
        rfl⟩

end LedgerRules
