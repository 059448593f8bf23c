import FloatLogic.Proofs.Double.Fields
import FloatLogic.Formula

/-!
# Numbers that agree

Two numbers agree if they are equal as values or both NaNs; apart from the payload of
a NaN they then differ at most in the sign of a zero.  Arithmetic takes numbers that
agree to numbers that agree, except for a division by zero, whose quotient shows the
sign of the zero as the sign of an infinity.  Comparisons cannot tell numbers apart
that agree.
-/

namespace FloatLogic.Double

open Float.Model Float.Model.UnpackedFloat

/-! ## Unpacked numbers -/

/-- A number after it has been packed into a word and unpacked again. -/
def repacked (number : UnpackedFloat) : UnpackedFloat :=
  UnpackedFloat.unpack .binary64 (UnpackedFloat.pack .binary64 number)

/-- Two unpacked numbers are the same but for the sign of a zero. -/
inductive SameButZeroSign : UnpackedFloat → UnpackedFloat → Prop
  | same (number : UnpackedFloat) : SameButZeroSign number number
  | zeros (sign other : Sign) : SameButZeroSign (.zero sign) (.zero other)

namespace SameButZeroSign

variable {first second third left right : UnpackedFloat}

theorem trans (before : SameButZeroSign first second) (after : SameButZeroSign second third) :
    SameButZeroSign first third := by
  cases before with
  | same => exact after
  | zeros sign other =>
    cases after with
    | same => exact .zeros sign other
    | zeros _ another => exact .zeros sign another

theorem repack (same : SameButZeroSign first second) :
    SameButZeroSign (repacked first) (repacked second) := by
  cases same with
  | same => exact .same _
  | zeros sign other =>
    have zeroKept (sign : Sign) : repacked (.zero sign) = .zero sign := unpack_zero sign
    rw [zeroKept, zeroKept]
    exact .zeros sign other

/-! ### Arithmetic -/

theorem neg (same : SameButZeroSign first second) : SameButZeroSign first.neg second.neg := by
  cases same with
  | same => exact .same _
  | zeros sign other => exact .zeros _ _

/-- An operation that shows the sign of a zero operand at most as the sign of a zero
result keeps numbers the same but for the sign of a zero. -/
theorem both {operation : UnpackedFloat → UnpackedFloat → UnpackedFloat}
    (onLeft : ∀ sign other number,
      SameButZeroSign (operation (.zero sign) number) (operation (.zero other) number))
    (onRight : ∀ number sign other,
      SameButZeroSign (operation number (.zero sign)) (operation number (.zero other)))
    (sameLeft : SameButZeroSign first second) (sameRight : SameButZeroSign left right) :
    SameButZeroSign (operation first left) (operation second right) := by
  have changeLeft : SameButZeroSign (operation first left) (operation second left) := by
    cases sameLeft with
    | same => exact .same _
    | zeros sign other => exact onLeft sign other left
  have changeRight : SameButZeroSign (operation second left) (operation second right) := by
    cases sameRight with
    | same => exact .same _
    | zeros sign other => exact onRight second sign other
  exact changeLeft.trans changeRight

theorem add (sameLeft : SameButZeroSign first second) (sameRight : SameButZeroSign left right) :
    SameButZeroSign (first.add .binary64 left) (second.add .binary64 right) := by
  refine both ?_ ?_ sameLeft sameRight
  · intro sign other number
    cases number with
    | zero third => cases sign <;> cases other <;> cases third <;> exact .zeros _ _
    | _ => exact .same _
  · intro number sign other
    cases number with
    | zero third => cases sign <;> cases other <;> cases third <;> exact .zeros _ _
    | _ => exact .same _

theorem apply_neg (sign : Sign) (magnitude : Int) :
    (-sign).apply magnitude = -sign.apply magnitude := by
  cases sign with
  | negative => exact (Int.neg_neg magnitude).symm
  | positive => rfl

/-- Subtracting is adding the number with the opposite sign. -/
theorem sub_eq_add_neg (left right : UnpackedFloat) :
    left.sub .binary64 right = left.add .binary64 right.neg := by
  cases left with
  | finite sign mantissa exponent =>
    cases right with
    | finite other otherMantissa otherExponent =>
      have opposite (first second : Int) :
          sign.apply first - other.apply second = sign.apply first + (-other).apply second := by
        rw [apply_neg, Int.sub_eq_add_neg]
      exact congrArg (fun sum => UnpackedFloat.normalize .binary64 sum
        (min exponent otherExponent) .positive) (opposite _ _)
    | _ => rfl
  | _ => cases right <;> rfl

theorem sub (sameLeft : SameButZeroSign first second) (sameRight : SameButZeroSign left right) :
    SameButZeroSign (first.sub .binary64 left) (second.sub .binary64 right) := by
  rw [sub_eq_add_neg, sub_eq_add_neg]
  exact sameLeft.add sameRight.neg

theorem mul (sameLeft : SameButZeroSign first second) (sameRight : SameButZeroSign left right) :
    SameButZeroSign (first.mul .binary64 left) (second.mul .binary64 right) := by
  refine both ?_ ?_ sameLeft sameRight
  · intro sign other number
    cases number with
    | zero | finite => exact .zeros _ _
    | infinity | notANumber => exact .same _
  · intro number sign other
    cases number with
    | zero | finite => exact .zeros _ _
    | infinity | notANumber => exact .same _

/-- The sign of a zero numerator shows at most as the sign of a zero quotient. -/
theorem div_left (same : SameButZeroSign first second) (divisor : UnpackedFloat) :
    SameButZeroSign (first.div .binary64 divisor) (second.div .binary64 divisor) := by
  cases same with
  | same => exact .same _
  | zeros sign other =>
    cases divisor with
    | infinity | finite => exact .zeros _ _
    | zero | notANumber => exact .same _

/-! ### Comparison -/

/-- The order does not depend on the signs of zeros. -/
theorem compare_eq (sameLeft : SameButZeroSign first second)
    (sameRight : SameButZeroSign left right) : first.compare left = second.compare right := by
  have changeLeft : first.compare left = second.compare left := by
    cases sameLeft with
    | same => rfl
    | zeros sign other =>
      cases left with
      | zero | notANumber => rfl
      | infinity third | finite third => cases third <;> rfl
  have changeRight : second.compare left = second.compare right := by
    cases sameRight with
    | same => rfl
    | zeros sign other =>
      cases second with
      | zero | notANumber => rfl
      | infinity third | finite third => cases third <;> rfl
  exact changeLeft.trans changeRight

/-- Magnitudes that are level have the same exponent and the same mantissa. -/
theorem magnitudes_eq {firstExponent secondExponent : Int} {firstMantissa secondMantissa : Nat}
    (level : (compare firstExponent secondExponent).then (compare firstMantissa secondMantissa) =
      .eq) : firstExponent = secondExponent ∧ firstMantissa = secondMantissa := by
  rcases Ordering.then_eq_eq.mp level with ⟨exponents, mantissas⟩
  exact ⟨Int.compare_eq_eq.mp exponents, Nat.compare_eq_eq.mp mantissas⟩

/-- Numbers that are level are the same but for the sign of a zero. -/
theorem of_compare (level : first.compare second = some .eq) : SameButZeroSign first second := by
  cases first with
  | notANumber => cases level
  | infinity sign =>
    cases second with
    | infinity other =>
      cases sign <;> cases other
      · exact .same _
      · cases level
      · cases level
      · exact .same _
    | _ => cases sign <;> cases level
  | zero sign =>
    cases second with
    | zero other => exact .zeros sign other
    | notANumber => cases level
    | infinity other | finite other => cases other <;> cases level
  | finite sign mantissa exponent =>
    cases second with
    | finite other otherMantissa otherExponent =>
      cases sign with
      | negative =>
        cases other with
        | negative =>
          obtain ⟨rfl, rfl⟩ := magnitudes_eq (Ordering.swap_eq_eq.mp (Option.some.inj level))
          exact .same _
        | positive => cases level
      | positive =>
        cases other with
        | negative => cases level
        | positive =>
          obtain ⟨rfl, rfl⟩ := magnitudes_eq (Option.some.inj level)
          exact .same _
    | zero => cases sign <;> cases level
    | notANumber => cases level
    | infinity other => cases sign <;> cases other <;> cases level

end SameButZeroSign

/-! ## Numbers -/

/-- Two numbers are equal as values, or both are NaNs. -/
def Agrees (first second : Double) : Prop :=
  first.equal second = true ∨ first.isNaN = true ∧ second.isNaN = true

/-- Numbers agree exactly if all operations see the same but for the sign of a zero. -/
theorem agrees_iff {first second : Double} :
    first.Agrees second ↔ SameButZeroSign first.unpacked second.unpacked := by
  rw [Agrees, equal_eq, order_eq, isNaN_eq, isNaN_eq, beq_iff_eq]
  constructor
  · rintro (level | ⟨firstNaN, secondNaN⟩)
    · exact .of_compare level
    · have notANumber {number : UnpackedFloat} (isNaN : number.isNaN = true) :
          number = .notANumber := by
        cases number with
        | notANumber => rfl
        | _ => cases isNaN
      rw [notANumber firstNaN, notANumber secondNaN]
      exact .same _
  · intro same
    generalize first.unpacked = number at same ⊢
    generalize second.unpacked = other at same ⊢
    cases same with
    | same =>
      rw [compare_self]
      cases number.isNaN <;> simp
    | zeros sign other => exact .inl rfl

theorem Agrees.refl (number : Double) : number.Agrees number :=
  agrees_iff.mpr (.same _)

/-! ### Arithmetic

Every operation unpacks its operands and packs its result. -/

theorem unpacked_neg (number : Double) : number.neg.unpacked = repacked number.unpacked.neg := by
  rw [← unpack_toFloat number]
  rfl

theorem unpacked_add (left right : Double) :
    (left.add right).unpacked = repacked (left.unpacked.add .binary64 right.unpacked) := by
  rw [← unpack_toFloat left, ← unpack_toFloat right]
  rfl

theorem unpacked_sub (left right : Double) :
    (left.sub right).unpacked = repacked (left.unpacked.sub .binary64 right.unpacked) := by
  rw [← unpack_toFloat left, ← unpack_toFloat right]
  rfl

theorem unpacked_mul (left right : Double) :
    (left.mul right).unpacked = repacked (left.unpacked.mul .binary64 right.unpacked) := by
  rw [← unpack_toFloat left, ← unpack_toFloat right]
  rfl

theorem unpacked_div (left right : Double) :
    (left.div right).unpacked = repacked (left.unpacked.div .binary64 right.unpacked) := by
  rw [← unpack_toFloat left, ← unpack_toFloat right]
  rfl

namespace Agrees

variable {first second left right : Double}

/-- The order of numbers does not tell numbers apart that agree. -/
theorem order_eq (agreeLeft : first.Agrees second) (agreeRight : left.Agrees right) :
    first.order left = second.order right := by
  rw [Double.order_eq, Double.order_eq]
  exact (agrees_iff.mp agreeLeft).compare_eq (agrees_iff.mp agreeRight)

theorem isZero_eq (agree : first.Agrees second) : first.isZero = second.isZero := by
  rw [isZero, isZero, equal_eq, equal_eq, agree.order_eq (refl zero)]

theorem neg (agree : first.Agrees second) : first.neg.Agrees second.neg := by
  rw [agrees_iff, unpacked_neg, unpacked_neg]
  exact (agrees_iff.mp agree).neg.repack

/-- A number that agrees with one that is not a zero is the same for all operations. -/
theorem unpacked_eq_of_not_isZero (agree : first.Agrees second) (nonzero : ¬ first.isZero = true) :
    first.unpacked = second.unpacked := by
  have same := agrees_iff.mp agree
  have proper : ¬ first.unpacked.compare zero.unpacked = some .eq := by
    rw [← Double.order_eq, ← beq_iff_eq]
    exact nonzero
  generalize first.unpacked = number at same proper ⊢
  generalize second.unpacked = other at same ⊢
  cases same with
  | same => rfl
  | zeros sign other => exact absurd rfl proper

end Agrees

end FloatLogic.Double

namespace FloatLogic

variable {first second left right : Double}

/-- Arithmetic takes numbers that agree to numbers that agree, division by a zero
excepted. -/
theorem Arithmetic.apply_agrees {operation : Arithmetic} (agreeLeft : first.Agrees second)
    (agreeRight : left.Agrees right) (proper : ¬ (operation = .div ∧ left.isZero = true)) :
    (operation.apply first left).Agrees (operation.apply second right) := by
  have sameLeft := Double.agrees_iff.mp agreeLeft
  have sameRight := Double.agrees_iff.mp agreeRight
  rw [Double.agrees_iff]
  cases operation with
  | add =>
    rw [apply, Double.unpacked_add, Double.unpacked_add]
    exact (sameLeft.add sameRight).repack
  | sub =>
    rw [apply, Double.unpacked_sub, Double.unpacked_sub]
    exact (sameLeft.sub sameRight).repack
  | mul =>
    rw [apply, Double.unpacked_mul, Double.unpacked_mul]
    exact (sameLeft.mul sameRight).repack
  | div =>
    have nonzero : ¬ left.isZero = true := fun isZero => proper ⟨rfl, isZero⟩
    rw [apply, Double.unpacked_div, Double.unpacked_div,
      ← agreeRight.unpacked_eq_of_not_isZero nonzero]
    exact (sameLeft.div_left left.unpacked).repack

/-- No comparison tells numbers apart that agree. -/
theorem Comparison.holds_eq_of_agrees (relation : Comparison) (agreeLeft : first.Agrees second)
    (agreeRight : left.Agrees right) :
    relation.holds first left = relation.holds second right := by
  have forward := agreeLeft.order_eq agreeRight
  have backward := agreeRight.order_eq agreeLeft
  cases relation with
  | eq => rw [holds, holds, Double.equal_eq, Double.equal_eq, forward]
  | ne => rw [holds, holds, Double.equal_eq, Double.equal_eq, forward]
  | lt => rw [holds, holds, Double.less_eq, Double.less_eq, forward]
  | le => rw [holds, holds, Double.lessEqual_eq, Double.lessEqual_eq, forward]
  | gt => rw [holds, holds, Double.less_eq, Double.less_eq, backward]
  | ge => rw [holds, holds, Double.lessEqual_eq, Double.lessEqual_eq, backward]

end FloatLogic
