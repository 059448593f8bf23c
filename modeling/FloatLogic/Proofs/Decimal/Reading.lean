import FloatLogic.Decimal.Positional
import Mathlib.Data.List.TakeWhile
import Mathlib.Tactic.Ring

/-!
# Reading decimals

The shortest decimal of an interval lies in the interval, and a positional text
reads back as the number that was written.  That the decimal is the shortest one is
not needed for reading it and is not claimed here.
-/

namespace FloatLogic.Decimal

/-! ## Decimals in an interval -/

namespace Interval

variable {interval : Interval}

/-- The ends of an interval belong to it exactly if it is closed. -/
theorem contains_iff {number : Nat} :
    interval.contains number = true ↔
      if interval.closed = true then interval.low ≤ number ∧ number ≤ interval.high
      else interval.low < number ∧ number < interval.high := by
  rw [contains]
  split <;> simp

theorem contains_nearestMultiple {step digits : Nat}
    (found : interval.nearestMultiple step = some digits) :
    interval.contains (digits * step) = true := by
  simp only [nearestMultiple] at found
  split at found
  · next below above =>
    split at found
    · obtain rfl := Option.some.inj found
      exact below
    · obtain rfl := Option.some.inj found
      exact above
  · next below _ =>
    obtain rfl := Option.some.inj found
    exact below
  · next _ above =>
    obtain rfl := Option.some.inj found
    exact above
  · cases found

/-- Whichever grid the search ends at, the decimal lies in the interval. -/
theorem contains_shortestFrom (valueInside : interval.contains interval.value = true)
    (bound : Nat) :
    interval.contains
      ((interval.shortestFrom bound).1 * 10 ^ (interval.shortestFrom bound).2) = true := by
  induction bound with
  | zero => simpa [shortestFrom] using valueInside
  | succ exponent inductionHypothesis =>
    rw [shortestFrom]
    cases found : interval.nearestMultiple (Nat.pow 10 (exponent + 1)) with
    | some digits => exact contains_nearestMultiple found
    | none => exact inductionHypothesis

/-- The shortest decimal lies in the interval. -/
theorem contains_shortest (valueInside : interval.contains interval.value = true) :
    interval.contains (interval.shortest.1 * 10 ^ interval.shortest.2) = true :=
  contains_shortestFrom valueInside _

end Interval

/-! ## Positional texts -/

/-- How many characters stand behind the point. -/
def decimalCount (text : List Char) : Nat := (text.dropWhile (· ≠ '.')).length - 1

/-- The number that a positional text denotes, in units of `10 ^ -places`. -/
def units (places : Nat) (text : List Char) : Nat :=
  Nat.ofDigitChars 10 (text.filter (· ≠ '.')) 0 * 10 ^ (places - decimalCount text)

theorem isDigit_zero : '0'.isDigit = true := by decide

theorem isDigit_of_mem_replicate {count : Nat} {figure : Char}
    (member : figure ∈ List.replicate count '0') : figure.isDigit = true := by
  rw [List.eq_of_mem_replicate member]
  exact isDigit_zero

theorem isDigit_of_mem_toDigits {digits : Nat} {figure : Char}
    (member : figure ∈ Nat.toDigits 10 digits) : figure.isDigit = true :=
  Nat.isDigit_of_mem_toDigits (by decide) (by decide) member

theorem ne_point_of_isDigit {figure : Char} (isDigit : figure.isDigit = true) : figure ≠ '.' := by
  rintro rfl
  cases isDigit

/-- Figures without a point have no decimals. -/
theorem units_of_isDigit {figures : List Char} (places : Nat)
    (areDigits : ∀ figure ∈ figures, figure.isDigit = true) :
    units places figures = Nat.ofDigitChars 10 figures 0 * 10 ^ places := by
  have noPoint : ∀ figure ∈ figures, decide (figure ≠ '.') = true := fun figure member =>
    decide_eq_true (ne_point_of_isDigit (areDigits figure member))
  rw [units, decimalCount, List.filter_eq_self.mpr noPoint, List.dropWhile_eq_nil_iff.mpr noPoint]
  simp

@[simp]
theorem units_zero (places : Nat) : units places ['0'] = 0 := by
  rw [units_of_isDigit]
  · simp [Nat.ofDigitChars_cons]
  · simp [isDigit_zero]

/-- The figures behind a point are decimals. -/
theorem units_append_point {whole decimals : List Char} (places : Nat)
    (areDigits : ∀ figure ∈ whole ++ decimals, figure.isDigit = true) :
    units places (whole ++ '.' :: decimals) =
      Nat.ofDigitChars 10 (whole ++ decimals) 0 * 10 ^ (places - decimals.length) := by
  have noPoint : ∀ figure ∈ whole ++ decimals, decide (figure ≠ '.') = true := fun figure member =>
    decide_eq_true (ne_point_of_isDigit (areDigits figure member))
  have noPointBefore : ∀ figure ∈ whole, decide (figure ≠ '.') = true := fun figure member =>
    noPoint figure (List.mem_append_left _ member)
  have filtered : (whole ++ '.' :: decimals).filter (· ≠ '.') = whole ++ decimals := by
    rw [List.filter_append, List.filter_cons_of_neg (by simp), ← List.filter_append,
      List.filter_eq_self.mpr noPoint]
  rw [units, decimalCount, filtered, List.dropWhile_append_of_pos noPointBefore]
  simp

/-- A positional text reads back as the number that was written. -/
theorem units_positional (digits exponent places : Nat) :
    units places (positional digits exponent places) = digits * 10 ^ exponent := by
  simp only [positional]
  split
  · next whole =>
    have split : exponent = exponent - places + places := by omega
    rw [units_of_isDigit, Nat.ofDigitChars_append, Nat.ofDigitChars_ten_toDigits,
      Nat.ofDigitChars_replicate_zero]
    · calc
        10 ^ (exponent - places) * digits * 10 ^ places =
            digits * 10 ^ (exponent - places + places) := by ring
        _ = digits * 10 ^ exponent := by rw [← split]
    · intro figure member
      rcases List.mem_append.mp member with member | member
      · exact isDigit_of_mem_toDigits member
      · exact isDigit_of_mem_replicate member
  split
  · next inside =>
    rw [units_append_point, List.take_append_drop, Nat.ofDigitChars_ten_toDigits,
      List.length_drop]
    · congr 2
      omega
    · rw [List.take_append_drop]
      exact fun figure => isDigit_of_mem_toDigits
  · next outside =>
    rw [← List.singleton_append, units_append_point, List.singleton_append, Nat.ofDigitChars_cons,
      Nat.ofDigitChars_append, Nat.ofDigitChars_replicate_zero, List.length_append,
      List.length_replicate]
    · rw [show 10 ^ _ * (10 * 0 + ('0'.toNat - '0'.toNat)) = 0 by simp,
        Nat.ofDigitChars_ten_toDigits]
      congr 2
      omega
    · intro figure member
      simp only [List.singleton_append, List.mem_cons, List.mem_append] at member
      rcases member with rfl | member | member
      · exact isDigit_zero
      · exact isDigit_of_mem_replicate member
      · exact isDigit_of_mem_toDigits member

theorem exists_toDigits_eq_cons (digits : Nat) :
    ∃ figure rest, Nat.toDigits 10 digits = figure :: rest ∧ figure.isDigit = true := by
  cases figures : Nat.toDigits 10 digits with
  | nil => exact absurd figures Nat.toDigits_ne_nil
  | cons figure rest =>
    have member : figure ∈ Nat.toDigits 10 digits := by simp [figures]
    exact ⟨figure, rest, rfl, isDigit_of_mem_toDigits member⟩

/-- A positional text begins with a figure. -/
theorem exists_positional_eq_cons (digits exponent places : Nat) :
    ∃ figure rest, positional digits exponent places = figure :: rest ∧
      figure.isDigit = true := by
  obtain ⟨figure, rest, figures, isDigit⟩ := exists_toDigits_eq_cons digits
  simp only [positional, figures]
  split
  · exact ⟨figure, _, rfl, isDigit⟩
  split
  · next inside =>
    obtain ⟨count, enough⟩ : ∃ count, (figure :: rest).length - (places - exponent) = count + 1 :=
      ⟨_, (Nat.succ_pred_eq_of_pos (Nat.sub_pos_of_lt inside)).symm⟩
    rw [enough]
    exact ⟨figure, _, rfl, isDigit⟩
  · exact ⟨'0', _, rfl, isDigit_zero⟩

/-- A positional text consists of figures and a point. -/
theorem isDigit_of_mem_positional {digits exponent places : Nat} {character : Char}
    (member : character ∈ positional digits exponent places) :
    character.isDigit = true ∨ character = '.' := by
  simp only [positional] at member
  split at member
  · rcases List.mem_append.mp member with member | member
    · exact Or.inl (isDigit_of_mem_toDigits member)
    · exact Or.inl (isDigit_of_mem_replicate member)
  split at member
  · rcases List.mem_append.mp member with member | member
    · exact Or.inl (isDigit_of_mem_toDigits (List.mem_of_mem_take member))
    · rcases List.mem_cons.mp member with member | member
      · exact Or.inr member
      · exact Or.inl (isDigit_of_mem_toDigits (List.mem_of_mem_drop member))
  · simp only [List.mem_cons, List.mem_append] at member
    rcases member with rfl | rfl | member | member
    · exact Or.inl isDigit_zero
    · exact Or.inr rfl
    · exact Or.inl (isDigit_of_mem_replicate member)
    · exact Or.inl (isDigit_of_mem_toDigits member)

end FloatLogic.Decimal
