import FloatLogic.Proofs.Decimal.Reading
import FloatLogic.Proofs.Double.Fields

/-!
# The text of a number

The rounding intervals of different magnitudes have no number in common, and the
figures of a magnitude denote a number of its interval.  Two numbers have one text
exactly if they are one number or both are NaNs; the two zeros have two texts.
-/

namespace FloatLogic.Double

/-! ## Magnitudes -/

theorem fractionField_lt (number : Double) : number.fractionField < leadingBit :=
  Nat.mod_lt _ (by decide)

theorem significand_lt (number : Double) : number.magnitude.1 < 2 * leadingBit := by
  have below := number.fractionField_lt
  rw [magnitude]
  split
  · show number.fractionField < _
    omega
  · show leadingBit + number.fractionField < _
    omega

/-- The leading bit is set unless the number is among the smallest. -/
theorem leadingBit_le_significand {number : Double} (doubled : number.magnitude.2 ≠ 0) :
    leadingBit ≤ number.magnitude.1 := by
  rw [magnitude] at doubled ⊢
  split at doubled
  · exact absurd rfl doubled
  · exact Nat.le_add_right _ _

/-- The magnitude determines the exponent and the fraction. -/
theorem fields_eq_of_magnitude_eq {first second : Double}
    (same : first.magnitude = second.magnitude) :
    first.exponentField = second.exponentField ∧ first.fractionField = second.fractionField := by
  have firstBelow := first.fractionField_lt
  have secondBelow := second.fractionField_lt
  rw [magnitude, magnitude] at same
  split at same <;> split at same <;> simp only [Prod.mk.injEq] at same <;> omega

/-! ## Rounding intervals -/

/-- What a count of doublings is worth in decimal units. -/
def unit (doublings : Nat) : Nat := Nat.pow 2 doublings * Nat.pow 5 decimalPlaces

theorem two_pow_mul_five_pow_pos (twos fives : Nat) : 0 < Nat.pow 2 twos * Nat.pow 5 fives :=
  Nat.mul_pos (Nat.pow_pos (by decide)) (Nat.pow_pos (by decide))

theorem unit_pos (doublings : Nat) : 0 < unit doublings :=
  two_pow_mul_five_pow_pos doublings decimalPlaces

theorem two_mul_unit_le {fewer more : Nat} (lt : fewer < more) : 2 * unit fewer ≤ unit more := by
  rw [unit, unit, ← Nat.mul_assoc]
  apply Nat.mul_le_mul_right
  calc
    2 * Nat.pow 2 fewer = 2 ^ (fewer + 1) := (Nat.pow_succ').symm
    _ ≤ 2 ^ more := Nat.pow_le_pow_right (by decide) lt

/-- Four times the distance from a significand to the end of its interval below. -/
def gapBelow (significand doublings : Nat) : Nat :=
  if significand = leadingBit ∧ doublings ≠ 0 then 1 else 2

theorem gapBelow_pos (significand doublings : Nat) : 0 < gapBelow significand doublings := by
  rw [gapBelow]
  split <;> decide

theorem gapBelow_le (significand doublings : Nat) : gapBelow significand doublings ≤ 2 := by
  rw [gapBelow]
  split <;> decide

theorem gapBelow_leadingBit {doublings : Nat} (doubled : doublings ≠ 0) :
    gapBelow leadingBit doublings = 1 :=
  if_pos ⟨rfl, doubled⟩

theorem roundingInterval_eq (number : Double) :
    number.roundingInterval =
      { low := (4 * number.magnitude.1 - gapBelow number.magnitude.1 number.magnitude.2) *
          unit number.magnitude.2
        value := 4 * number.magnitude.1 * unit number.magnitude.2
        high := (4 * number.magnitude.1 + 2) * unit number.magnitude.2
        closed := number.magnitude.1 % 2 = 0 } := by
  rw [roundingInterval]
  rcases number.magnitude with ⟨significand, doublings⟩
  rfl

theorem low_eq (number : Double) :
    number.roundingInterval.low =
      (4 * number.magnitude.1 - gapBelow number.magnitude.1 number.magnitude.2) *
        unit number.magnitude.2 := by
  rw [roundingInterval_eq]

theorem value_eq (number : Double) :
    number.roundingInterval.value = 4 * number.magnitude.1 * unit number.magnitude.2 := by
  rw [roundingInterval_eq]

theorem high_eq (number : Double) :
    number.roundingInterval.high = (4 * number.magnitude.1 + 2) * unit number.magnitude.2 := by
  rw [roundingInterval_eq]

theorem closed_iff {number : Double} :
    number.roundingInterval.closed = true ↔ number.magnitude.1 % 2 = 0 := by
  rw [roundingInterval_eq, decide_eq_true_iff]

/-- Magnitudes are ordered by the doublings first. -/
def Below (first second : Nat × Nat) : Prop :=
  first.2 < second.2 ∨ first.2 = second.2 ∧ first.1 < second.1

/-- The interval of a smaller magnitude ends before the one of a larger begins, or
where it begins if at most one of the two has its ends. -/
theorem high_le_low_of_below {first second : Double}
    (below : Below first.magnitude second.magnitude) :
    first.roundingInterval.high ≤ second.roundingInterval.low ∧
      (first.roundingInterval.closed = true → second.roundingInterval.closed = true →
        first.roundingInterval.high < second.roundingInterval.low) := by
  have gap := gapBelow_le second.magnitude.1 second.magnitude.2
  have firstPos := unit_pos first.magnitude.2
  rw [high_eq, low_eq, closed_iff, closed_iff]
  rcases below with fewer | ⟨same, lt⟩
  · -- The largest significand is odd, so its interval is open where it touches the next.
    have firstBound := first.significand_lt
    have doubled : second.magnitude.2 ≠ 0 := by omega
    have secondBound := leadingBit_le_significand doubled
    have lower : 4 * leadingBit - 1 ≤
        4 * second.magnitude.1 - gapBelow second.magnitude.1 second.magnitude.2 := by
      by_cases lowest : second.magnitude.1 = leadingBit
      · rw [lowest, gapBelow_leadingBit doubled]
      · omega
    have touching : (8 * leadingBit - 2) * unit first.magnitude.2 ≤
        (4 * second.magnitude.1 - gapBelow second.magnitude.1 second.magnitude.2) *
          unit second.magnitude.2 := by
      have doubleEnd : 8 * leadingBit - 2 = (4 * leadingBit - 1) * 2 := by omega
      calc
        (8 * leadingBit - 2) * unit first.magnitude.2 =
            (4 * leadingBit - 1) * (2 * unit first.magnitude.2) := by
          rw [doubleEnd, Nat.mul_assoc]
        _ ≤ _ := Nat.mul_le_mul lower (two_mul_unit_le fewer)
    constructor
    · refine Nat.le_trans (Nat.mul_le_mul_right _ ?_) touching
      omega
    · intro firstEven _
      refine Nat.lt_of_lt_of_le (Nat.mul_lt_mul_of_pos_right ?_ firstPos) touching
      omega
  · rw [← same] at gap ⊢
    constructor
    · apply Nat.mul_le_mul_right
      omega
    · intro firstEven secondEven
      apply Nat.mul_lt_mul_of_pos_right _ firstPos
      omega

/-- What rounds to a smaller magnitude is less than what rounds to a larger one. -/
theorem lt_of_contains_of_below {first second : Double} {units others : Nat}
    (below : Below first.magnitude second.magnitude)
    (firstContains : first.roundingInterval.contains units = true)
    (secondContains : second.roundingInterval.contains others = true) : units < others := by
  obtain ⟨touching, apart⟩ := high_le_low_of_below below
  rw [Decimal.Interval.contains_iff] at firstContains secondContains
  split at firstContains <;> split at secondContains
  · next firstClosed secondClosed =>
    have := apart firstClosed secondClosed
    omega
  all_goals omega

/-- The rounding intervals of two magnitudes have no number in common. -/
theorem magnitude_eq_of_contains {first second : Double} {units : Nat}
    (firstContains : first.roundingInterval.contains units = true)
    (secondContains : second.roundingInterval.contains units = true) :
    first.magnitude = second.magnitude := by
  by_contra different
  have ordered : Below first.magnitude second.magnitude ∨
      Below second.magnitude first.magnitude := by
    rw [Prod.ext_iff] at different
    simp only [Below]
    omega
  rcases ordered with below | below
  · exact Nat.lt_irrefl _ (lt_of_contains_of_below below firstContains secondContains)
  · exact Nat.lt_irrefl _ (lt_of_contains_of_below below secondContains firstContains)

/-! ## Figures -/

/-- A magnitude lies in its own interval. -/
theorem contains_value {number : Double} (nonzero : number.magnitude.1 ≠ 0) :
    number.roundingInterval.contains number.roundingInterval.value = true := by
  have pos := unit_pos number.magnitude.2
  have gap := gapBelow_pos number.magnitude.1 number.magnitude.2
  have low : number.roundingInterval.low < number.roundingInterval.value := by
    rw [low_eq, value_eq]
    apply Nat.mul_lt_mul_of_pos_right _ pos
    omega
  have high : number.roundingInterval.value < number.roundingInterval.high := by
    rw [value_eq, high_eq]
    apply Nat.mul_lt_mul_of_pos_right _ pos
    omega
  rw [Decimal.Interval.contains_iff]
  split
  · exact ⟨low.le, high.le⟩
  · exact ⟨low, high⟩

theorem contains_zero {number : Double} (zero : number.magnitude.1 = 0) :
    number.roundingInterval.contains 0 = true := by
  have closed : number.roundingInterval.closed = true := closed_iff.mpr (by rw [zero])
  rw [Decimal.Interval.contains_iff, if_pos closed, low_eq, zero]
  exact ⟨by simp, Nat.zero_le _⟩

/-- The figures are those of zero or of the shortest decimal in the interval. -/
theorem magnitudeFigures_cases (number : Double) :
    number.magnitude.1 = 0 ∧ number.magnitudeFigures = ['0'] ∨
      number.magnitude.1 ≠ 0 ∧
        number.magnitudeFigures =
          Decimal.positional number.roundingInterval.shortest.1 number.roundingInterval.shortest.2
            decimalPlaces := by
  rw [magnitudeFigures]
  rcases number.roundingInterval.shortest with ⟨digits, exponent⟩
  split
  · next zero => exact Or.inl ⟨zero, rfl⟩
  · next nonzero => exact Or.inr ⟨nonzero, rfl⟩

/-- The figures of a magnitude denote a number of its interval. -/
theorem contains_units_magnitudeFigures (number : Double) :
    number.roundingInterval.contains (Decimal.units decimalPlaces number.magnitudeFigures) =
      true := by
  rcases number.magnitudeFigures_cases with ⟨zero, figures⟩ | ⟨nonzero, figures⟩
  · rw [figures, Decimal.units_zero]
    exact contains_zero zero
  · rw [figures, Decimal.units_positional]
    exact Decimal.Interval.contains_shortest (contains_value nonzero)

/-- The figures determine the magnitude. -/
theorem magnitude_eq_of_magnitudeFigures_eq {first second : Double}
    (same : first.magnitudeFigures = second.magnitudeFigures) :
    first.magnitude = second.magnitude := by
  have firstContains := contains_units_magnitudeFigures first
  have secondContains := contains_units_magnitudeFigures second
  rw [same] at firstContains
  exact magnitude_eq_of_contains firstContains secondContains

theorem exists_magnitudeFigures_eq_cons (number : Double) :
    ∃ figure rest, number.magnitudeFigures = figure :: rest ∧ figure.isDigit = true := by
  rcases number.magnitudeFigures_cases with ⟨_, figures⟩ | ⟨_, figures⟩
  · exact ⟨'0', [], figures, Decimal.isDigit_zero⟩
  · rw [figures]
    exact Decimal.exists_positional_eq_cons _ _ _

theorem isDigit_of_mem_magnitudeFigures {number : Double} {character : Char}
    (member : character ∈ number.magnitudeFigures) :
    character.isDigit = true ∨ character = '.' := by
  rcases number.magnitudeFigures_cases with ⟨_, figures⟩ | ⟨_, figures⟩
  · rw [figures, List.mem_singleton] at member
    rw [member]
    exact Or.inl Decimal.isDigit_zero
  · rw [figures] at member
    exact Decimal.isDigit_of_mem_positional member

/-! ## Texts -/

/-- The characters of a number that is not a NaN, without its sign. -/
def unsigned (number : Double) : List Char :=
  if number.isSpecial then ['i', 'n', 'f'] else number.magnitudeFigures

theorem toList_text_of_isNaN {number : Double} (isNaN : number.isNaN = true) :
    number.text.toList = ['N', 'a', 'N'] := by
  obtain ⟨special, fraction⟩ := isNaN_eq_true_iff.mp isNaN
  rw [text, if_pos special, if_pos fraction]
  rfl

theorem toList_text {number : Double} (notNaN : ¬ number.isNaN = true) :
    number.text.toList =
      if number.signBit then '-' :: number.unsigned else number.unsigned := by
  rw [text, unsigned]
  by_cases special : number.isSpecial = true
  · have infinite : ¬ number.fractionField ≠ 0 := fun fraction =>
      notNaN (isNaN_eq_true_iff.mpr ⟨special, fraction⟩)
    rw [if_pos special, if_pos special, if_neg infinite]
    cases number.signBit <;> rfl
  · rw [if_neg special, if_neg special]
    cases number.signBit with
    | false => rw [if_neg Bool.false_ne_true, if_neg Bool.false_ne_true, String.toList_ofList]
    | true => rw [if_pos rfl, if_pos rfl, String.toList_ofList]

/-- A number without its sign begins with a figure, or it is infinite. -/
theorem unsigned_cases (number : Double) :
    number.unsigned = ['i', 'n', 'f'] ∨
      ∃ figure rest, number.unsigned = figure :: rest ∧ figure.isDigit = true := by
  rw [unsigned]
  split
  · exact Or.inl rfl
  · exact Or.inr number.exists_magnitudeFigures_eq_cons

theorem minus_notMem_unsigned (number : Double) : '-' ∉ number.unsigned := by
  rw [unsigned]
  split
  · decide
  · intro member
    rcases isDigit_of_mem_magnitudeFigures member with isDigit | isPoint
    · cases isDigit
    · cases isPoint

theorem fields_of_isSpecial {number : Double} (notNaN : ¬ number.isNaN = true)
    (special : number.isSpecial = true) :
    number.exponentField = 2047 ∧ number.fractionField = 0 := by
  constructor
  · exact of_decide_eq_true special
  · by_contra fraction
    exact notNaN (isNaN_eq_true_iff.mpr ⟨special, fraction⟩)

theorem magnitudeFigures_ne_infinite (number : Double) :
    number.magnitudeFigures ≠ ['i', 'n', 'f'] := by
  intro same
  obtain ⟨figure, rest, figures, isDigit⟩ := number.exists_magnitudeFigures_eq_cons
  rw [figures] at same
  obtain ⟨rfl, _⟩ := List.cons.inj same
  cases isDigit

/-- The characters without a sign determine the exponent and the fraction. -/
theorem fields_eq_of_unsigned_eq {first second : Double} (firstNumber : ¬ first.isNaN = true)
    (secondNumber : ¬ second.isNaN = true) (same : first.unsigned = second.unsigned) :
    first.exponentField = second.exponentField ∧ first.fractionField = second.fractionField := by
  rw [unsigned, unsigned] at same
  split at same <;> split at same
  · next firstSpecial secondSpecial =>
    obtain ⟨firstExponent, firstFraction⟩ := fields_of_isSpecial firstNumber firstSpecial
    obtain ⟨secondExponent, secondFraction⟩ := fields_of_isSpecial secondNumber secondSpecial
    exact ⟨firstExponent.trans secondExponent.symm, firstFraction.trans secondFraction.symm⟩
  · exact absurd same.symm second.magnitudeFigures_ne_infinite
  · exact absurd same first.magnitudeFigures_ne_infinite
  · exact fields_eq_of_magnitude_eq (magnitude_eq_of_magnitudeFigures_eq same)

/-- The text of a number that is not a NaN determines it, also the sign of a zero. -/
theorem eq_of_text_eq {first second : Double} (firstNumber : ¬ first.isNaN = true)
    (secondNumber : ¬ second.isNaN = true) (same : first.text = second.text) : first = second := by
  have characters := congrArg String.toList same
  rw [toList_text firstNumber, toList_text secondNumber] at characters
  have sameSign : first.signBit = second.signBit ∧ first.unsigned = second.unsigned := by
    cases firstSign : first.signBit <;> cases secondSign : second.signBit <;>
      simp only [firstSign, secondSign, if_true, Bool.false_eq_true, if_false] at characters
    · exact ⟨rfl, characters⟩
    · exact absurd (by simp [characters]) first.minus_notMem_unsigned
    · exact absurd (by simp [← characters]) second.minus_notMem_unsigned
    · exact ⟨rfl, (List.cons.inj characters).2⟩
  obtain ⟨sign, unsigned⟩ := sameSign
  obtain ⟨exponent, fraction⟩ := fields_eq_of_unsigned_eq firstNumber secondNumber unsigned
  exact eq_of_fields sign exponent fraction

/-- How the text of a number that is not a NaN begins. -/
theorem toList_text_cases {number : Double} (notNaN : ¬ number.isNaN = true) :
    number.text.toList = ['i', 'n', 'f'] ∨
      ∃ character rest, number.text.toList = character :: rest ∧
        (character.isDigit = true ∨ character = '-' ∧ rest ≠ []) := by
  rw [toList_text notNaN]
  split
  · refine Or.inr ⟨'-', _, rfl, Or.inr ⟨rfl, ?_⟩⟩
    rcases number.unsigned_cases with infinite | ⟨_, _, figures, _⟩
    · simp [infinite]
    · simp [figures]
  · rcases number.unsigned_cases with infinite | ⟨figure, rest, figures, isDigit⟩
    · exact Or.inl infinite
    · exact Or.inr ⟨figure, rest, figures, Or.inl isDigit⟩

theorem toList_text_ne_of_not_isNaN {number : Double} (notNaN : ¬ number.isNaN = true) :
    number.text.toList ≠ ['N', 'a', 'N'] := by
  intro same
  rcases toList_text_cases notNaN with infinite | ⟨character, rest, characters, begins⟩
  · rw [infinite] at same
    cases same
  · rw [characters] at same
    obtain ⟨rfl, _⟩ := List.cons.inj same
    rcases begins with isDigit | ⟨isMinus, _⟩
    · cases isDigit
    · cases isMinus

/-- The characters of a text. -/
theorem mem_toList_text_cases {number : Double} {character : Char}
    (member : character ∈ number.text.toList) :
    character.isDigit = true ∨ character ∈ ['.', '-', 'N', 'a', 'i', 'n', 'f'] := by
  by_cases isNaN : number.isNaN = true
  · rw [toList_text_of_isNaN isNaN] at member
    have among : ['N', 'a', 'N'] ⊆ ['.', '-', 'N', 'a', 'i', 'n', 'f'] := by decide
    exact Or.inr (among member)
  · have unsignedCharacters (inside : character ∈ number.unsigned) :
        character.isDigit = true ∨ character ∈ ['.', '-', 'N', 'a', 'i', 'n', 'f'] := by
      rw [unsigned] at inside
      split at inside
      · have among : ['i', 'n', 'f'] ⊆ ['.', '-', 'N', 'a', 'i', 'n', 'f'] := by decide
        exact Or.inr (among inside)
      · rcases isDigit_of_mem_magnitudeFigures inside with isDigit | rfl
        · exact Or.inl isDigit
        · exact Or.inr (by decide)
    rw [toList_text isNaN] at member
    split at member
    · rcases List.mem_cons.mp member with rfl | inside
      · exact Or.inr (by decide)
      · exact unsignedCharacters inside
    · exact unsignedCharacters member

/-! ## Identified NaNs -/

/-- The NaN that every NaN is identified with. -/
def quietNaN : Double := ⟨0x7ff8000000000000⟩

/-- Identify all NaNs and keep every other number. -/
def identifyNaN (number : Double) : Double := if number.isNaN then quietNaN else number

theorem isNaN_quietNaN : quietNaN.isNaN = true := by decide +kernel

/-- Two numbers have one text exactly if they are one number or both are NaNs. -/
theorem text_eq_iff {first second : Double} :
    first.text = second.text ↔ first.identifyNaN = second.identifyNaN := by
  rw [identifyNaN, identifyNaN]
  by_cases firstNaN : first.isNaN = true <;> by_cases secondNaN : second.isNaN = true
  · rw [if_pos firstNaN, if_pos secondNaN, ← String.toList_inj, toList_text_of_isNaN firstNaN,
      toList_text_of_isNaN secondNaN]
    exact ⟨fun _ => rfl, fun _ => rfl⟩
  · rw [if_pos firstNaN, if_neg secondNaN, ← String.toList_inj, toList_text_of_isNaN firstNaN]
    constructor
    · exact fun same => absurd same.symm (toList_text_ne_of_not_isNaN secondNaN)
    · rintro rfl
      exact absurd isNaN_quietNaN secondNaN
  · rw [if_neg firstNaN, if_pos secondNaN, ← String.toList_inj, toList_text_of_isNaN secondNaN]
    constructor
    · exact fun same => absurd same (toList_text_ne_of_not_isNaN firstNaN)
    · rintro rfl
      exact absurd isNaN_quietNaN firstNaN
  · rw [if_neg firstNaN, if_neg secondNaN]
    exact ⟨eq_of_text_eq firstNaN secondNaN, congrArg text⟩

theorem identifyNaN_eq_self {number : Double} (notNaN : number.isNaN = false) :
    number.identifyNaN = number := by
  rw [identifyNaN, notNaN, if_neg Bool.false_ne_true]

theorem identifyNaN_identifyNaN (number : Double) :
    number.identifyNaN.identifyNaN = number.identifyNaN := by
  cases isNaN : number.isNaN with
  | false => rw [identifyNaN_eq_self isNaN, identifyNaN_eq_self isNaN]
  | true =>
    have quiet : number.identifyNaN = quietNaN := if_pos isNaN
    rw [quiet, identifyNaN, if_pos isNaN_quietNaN]

theorem text_identifyNaN (number : Double) : number.identifyNaN.text = number.text :=
  text_eq_iff.mpr number.identifyNaN_identifyNaN

end FloatLogic.Double
