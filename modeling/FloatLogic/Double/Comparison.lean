import FloatLogic.Double

/-!
# Laws of comparison

The comparisons of doubles come from one partial order of the unpacked numbers,
in which NaN is related to nothing.  Hence a number other than NaN is equal to
itself, equality is symmetric, and the weak order is the strict order or
equality.
-/

namespace FloatLogic.Double

/-- The order of two numbers, if neither is a NaN. -/
def order (left right : Double) : Option Ordering :=
  left.toFloat.toModel.unpack.compare right.toFloat.toModel.unpack

theorem equal_eq (left right : Double) : left.equal right = (left.order right == some .eq) := rfl

theorem less_eq (left right : Double) : left.less right = (left.order right == some .lt) :=
  Bool.decide_coe _

theorem lessEqual_eq (left right : Double) :
    left.lessEqual right = (left.order right).any (·.isLE) :=
  Bool.decide_coe _

theorem magnitudes_swap (firstExponent secondExponent : Int) (firstMantissa secondMantissa : Nat) :
    (compare secondExponent firstExponent).then (compare secondMantissa firstMantissa) =
      ((compare firstExponent secondExponent).then
        (compare firstMantissa secondMantissa)).swap := by
  rw [Ordering.swap_then, Int.compare_swap, Nat.compare_swap]

open Float.Model in
theorem compare_swap (first second : UnpackedFloat) :
    second.compare first = (first.compare second).map Ordering.swap := by
  rcases first with (_ | _) | _ | (_ | _) | ⟨(_ | _), firstMantissa, firstExponent, _⟩ <;>
    rcases second with (_ | _) | _ | (_ | _) | ⟨(_ | _), secondMantissa, secondExponent, _⟩ <;>
    try rfl
  · exact congrArg (fun order => some order.swap)
      (magnitudes_swap firstExponent secondExponent firstMantissa secondMantissa)
  · exact congrArg some
      (magnitudes_swap firstExponent secondExponent firstMantissa secondMantissa)

/-- Changing sides turns the order around. -/
theorem order_swap (left right : Double) :
    right.order left = (left.order right).map Ordering.swap :=
  compare_swap _ _

open Float.Model in
theorem compare_self (number : UnpackedFloat) :
    number.compare number = if number.isNaN then none else some .eq := by
  rcases number with (_ | _) | _ | (_ | _) | ⟨(_ | _), mantissa, exponent, _⟩ <;> try rfl
  · show some ((compare exponent exponent).then (compare mantissa mantissa)).swap = some .eq
    rw [Int.compare_eq_eq.mpr rfl, Nat.compare_eq_eq.mpr rfl]
    rfl
  · show some ((compare exponent exponent).then (compare mantissa mantissa)) = some .eq
    rw [Int.compare_eq_eq.mpr rfl, Nat.compare_eq_eq.mpr rfl]
    rfl

/-- A number is level with itself unless it is a NaN. -/
theorem order_self (number : Double) :
    number.order number = if number.isNaN then none else some .eq :=
  compare_self _

theorem equal_self {number : Double} (proper : number.isNaN = false) :
    number.equal number = true := by
  simp [equal_eq, order_self, proper]

theorem less_self (number : Double) : number.less number = false := by
  rw [less_eq, order_self]
  split <;> rfl

theorem lessEqual_self {number : Double} (proper : number.isNaN = false) :
    number.lessEqual number = true := by
  simp [lessEqual_eq, order_self, proper, Ordering.isLE]

theorem equal_comm (left right : Double) : left.equal right = right.equal left := by
  rw [equal_eq, equal_eq, order_swap left right]
  rcases left.order right with _ | (_ | _ | _) <;> rfl

theorem lessEqual_eq_or (left right : Double) :
    left.lessEqual right = (left.less right || left.equal right) := by
  rw [lessEqual_eq, less_eq, equal_eq]
  rcases left.order right with _ | (_ | _ | _) <;> rfl

end FloatLogic.Double
