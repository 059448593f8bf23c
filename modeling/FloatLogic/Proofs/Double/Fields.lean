import FloatLogic.Decimal.Positional
import FloatLogic.Double.Comparison
import Mathlib

/-!
# The fields of a number

The word of a number consists of a sign, an exponent and a fraction, and every
operation begins by unpacking these three.  A word is packed and unpacked without
loss, but for the payload of a NaN, so the bits of a number say what it is: it is
a NaN exactly if all exponent bits are set and the fraction is not zero, and it is
a zero exactly if both are zero.
-/

namespace FloatLogic.Double

open Float.Model Float.Model.UnpackedFloat

/-! ## Unpacking of each sort of word -/

theorem sign_packComponents (sign : Sign) (exponent : BitVec 11) (fraction : BitVec 52) :
    Sign.ofBitVec (unpackSign (packComponents .binary64 sign exponent fraction)) = sign := by
  have bit : unpackSign (packComponents .binary64 sign exponent fraction) = sign.toBitVec := by
    simp only [unpackSign, packComponents, BitVec.extractLsb]
    rw [BitVec.extractLsb'_append_eq_of_le (by omega),
      BitVec.extractLsb'_append_eq_of_le (by omega)]
    cases sign <;> rfl
  rw [bit]
  cases sign <;> rfl

theorem unpack_infinity (sign : Sign) :
    UnpackedFloat.unpack .binary64 (packComponents .binary64 sign (-1#11) 0#52) =
      .infinity sign := by
  cases sign <;> rfl

theorem unpack_notANumber (sign : Sign) {fraction : BitVec 52} (nonzero : fraction ≠ 0#52) :
    UnpackedFloat.unpack .binary64 (packComponents .binary64 sign (-1#11) fraction) =
      .notANumber := by
  unfold UnpackedFloat.unpack
  simp only [unpackExponent_packComponents, unpackMantissa_packComponents, if_neg nonzero, if_true]

theorem unpack_zero (sign : Sign) :
    UnpackedFloat.unpack .binary64 (packComponents .binary64 sign 0#11 0#52) = .zero sign := by
  cases sign <;> rfl

theorem toNat_pos {fraction : BitVec 52} (nonzero : fraction ≠ 0#52) : 0 < fraction.toNat :=
  Nat.pos_of_ne_zero fun same => nonzero (BitVec.eq_of_toNat_eq same)

theorem unpack_subnormal (sign : Sign) {fraction : BitVec 52} (nonzero : fraction ≠ 0#52) :
    UnpackedFloat.unpack .binary64 (packComponents .binary64 sign 0#11 fraction) =
      .finite sign fraction.toNat (-1074) (toNat_pos nonzero) := by
  unfold UnpackedFloat.unpack
  simp only [unpackExponent_packComponents, unpackMantissa_packComponents, sign_packComponents]
  rw [if_neg (by decide), if_pos trivial, dif_neg nonzero]
  rfl

theorem toNat_leading (fraction : BitVec 52) :
    (1#1 ++ fraction).toNat = 2 ^ 52 + fraction.toNat := by
  rw [BitVec.toNat_append, ← Nat.shiftLeft_add_eq_or_of_lt fraction.isLt]
  rfl

theorem leading_pos (fraction : BitVec 52) : 0 < (1#1 ++ fraction).toNat := by
  rw [toNat_leading]
  omega

theorem unpack_normal (sign : Sign) {exponent : BitVec 11} (fraction : BitVec 52)
    (special : exponent ≠ -1#11) (normal : exponent ≠ 0#11) :
    UnpackedFloat.unpack .binary64 (packComponents .binary64 sign exponent fraction) =
      .finite sign (1#1 ++ fraction).toNat (exponent.toNat - 1075) (leading_pos fraction) := by
  unfold UnpackedFloat.unpack
  simp only [unpackExponent_packComponents, unpackMantissa_packComponents, sign_packComponents]
  rw [if_neg special, if_neg normal]
  rfl

/-! ## The sorts of words -/

/-- The five sorts of words. -/
inductive Sort64 : BitVec 64 → Prop
  | infinity (sign : Sign) : Sort64 (packComponents .binary64 sign (-1#11) 0#52)
  | notANumber (sign : Sign) {fraction : BitVec 52} (nonzero : fraction ≠ 0#52) :
      Sort64 (packComponents .binary64 sign (-1#11) fraction)
  | zero (sign : Sign) : Sort64 (packComponents .binary64 sign 0#11 0#52)
  | subnormal (sign : Sign) {fraction : BitVec 52} (nonzero : fraction ≠ 0#52) :
      Sort64 (packComponents .binary64 sign 0#11 fraction)
  | normal (sign : Sign) {exponent : BitVec 11} (fraction : BitVec 52)
      (special : exponent ≠ -1#11) (normal : exponent ≠ 0#11) :
      Sort64 (packComponents .binary64 sign exponent fraction)

/-- A word consists of its sign, its exponent and its fraction. -/
theorem packComponents_unpack (bits : BitVec 64) :
    packComponents .binary64 (Sign.ofBitVec (@unpackSign .binary64 bits))
      (@unpackExponent .binary64 bits) (@unpackMantissa .binary64 bits) = bits := by
  have signs : ∀ sign : BitVec 1, (Sign.ofBitVec sign).toBitVec = sign := by decide
  rw [packComponents, signs]
  apply BitVec.eq_of_getLsbD_eq
  intro index below
  simp only [unpackSign, unpackExponent, unpackMantissa]
  grind

theorem sort64 (bits : BitVec 64) : Sort64 bits := by
  rw [← packComponents_unpack bits]
  by_cases special : @unpackExponent .binary64 bits = -1#11
  · rw [special]
    by_cases infinite : @unpackMantissa .binary64 bits = 0#52
    · rw [infinite]
      exact .infinity _
    · exact .notANumber _ infinite
  · by_cases subnormal : @unpackExponent .binary64 bits = 0#11
    · rw [subnormal]
      by_cases zero : @unpackMantissa .binary64 bits = 0#52
      · rw [zero]
        exact .zero _
      · exact .subnormal _ zero
    · exact .normal _ _ special subnormal

/-! ## Packing -/

theorem pack_subnormal (sign : Sign) {fraction : BitVec 52} (nonzero : fraction ≠ 0#52) :
    UnpackedFloat.pack .binary64 (.finite sign fraction.toNat (-1074) (toNat_pos nonzero)) =
      packComponents .binary64 sign 0#11 fraction := by
  have finite : ¬ 2 ^ 11 ≤ ((-1074 : Int) + 1023 + 52).toNat + 1 := by decide
  have short : ¬ fraction.toNat.log2 + 1 = 53 := by
    have := (Nat.log2_lt (toNat_pos nonzero).ne').mpr fraction.isLt
    omega
  refine (if_neg (t := packedInfinity .binary64 sign) finite).trans ((if_neg short).trans ?_)
  rw [BitVec.ofNat_toNat, BitVec.setWidth_eq]

theorem pack_normal (sign : Sign) {exponent : BitVec 11} (fraction : BitVec 52)
    (special : exponent ≠ -1#11) :
    UnpackedFloat.pack .binary64
        (.finite sign (1#1 ++ fraction).toNat (exponent.toNat - 1075) (leading_pos fraction)) =
      packComponents .binary64 sign exponent fraction := by
  have biased : ((exponent.toNat : Int) - 1075 + 1023 + 52).toNat = exponent.toNat := by omega
  have finite : ¬ 2 ^ 11 ≤ exponent.toNat + 1 := by
    intro full
    have below := exponent.isLt
    have : exponent.toNat = (-1#11).toNat := by
      rw [show (-1#11).toNat = 2047 from rfl]
      omega
    exact special (BitVec.eq_of_toNat_eq this)
  have long : (1#1 ++ fraction).toNat.log2 + 1 = 53 := by
    have below := fraction.isLt
    have : (1#1 ++ fraction).toNat.log2 = 52 := by
      rw [Nat.log2_eq_iff (leading_pos fraction).ne', toNat_leading]
      omega
    omega
  rw [← biased] at finite
  refine (if_neg finite).trans ((if_pos long).trans ?_)
  show packComponents .binary64 sign
      (BitVec.ofNat 11 ((exponent.toNat : Int) - 1075 + 1023 + 52).toNat)
      (BitVec.ofNat 52 (1#1 ++ fraction).toNat) = _
  rw [biased, BitVec.ofNat_toNat, BitVec.setWidth_eq]
  congr 1
  apply BitVec.eq_of_toNat_eq
  rw [BitVec.toNat_ofNat, toNat_leading, Nat.add_mod_left, Nat.mod_eq_of_lt fraction.isLt]

/-- Packing an unpacked word loses nothing but the payload of a NaN. -/
theorem unpack_pack_unpack (bits : BitVec 64) :
    UnpackedFloat.unpack .binary64
        (UnpackedFloat.pack .binary64 (UnpackedFloat.unpack .binary64 bits)) =
      UnpackedFloat.unpack .binary64 bits := by
  cases sort64 bits with
  | infinity sign =>
    rw [unpack_infinity]
    exact unpack_infinity sign
  | notANumber sign nonzero =>
    rw [unpack_notANumber sign nonzero]
    rfl
  | zero sign =>
    rw [unpack_zero]
    exact unpack_zero sign
  | subnormal sign nonzero =>
    rw [unpack_subnormal sign nonzero, pack_subnormal sign nonzero,
      unpack_subnormal sign nonzero]
  | normal sign fraction special normal =>
    rw [unpack_normal sign fraction special normal, pack_normal sign fraction special,
      unpack_normal sign fraction special normal]

/-! ## The fields of a number -/

/-- A number as every operation sees it. -/
def unpacked (number : Double) : UnpackedFloat :=
  UnpackedFloat.unpack .binary64 number.bits.toBitVec

theorem unpack_toFloat (number : Double) : number.toFloat.toModel.unpack = number.unpacked :=
  unpack_pack_unpack number.bits.toBitVec

theorem isNaN_eq (number : Double) : number.isNaN = number.unpacked.isNaN :=
  congrArg UnpackedFloat.isNaN (unpack_toFloat number)

theorem order_eq (left right : Double) :
    left.order right = left.unpacked.compare right.unpacked := by
  rw [order, unpack_toFloat, unpack_toFloat]

theorem toNat_unpackExponent (number : Double) :
    (@unpackExponent .binary64 number.bits.toBitVec).toNat = number.exponentField := by
  show (number.bits.toBitVec.extractLsb 62 52).toNat = _
  rw [BitVec.extractLsb_toNat, exponentField, UInt64.toNat_shiftRight]
  rfl

theorem toNat_unpackMantissa (number : Double) :
    (@unpackMantissa .binary64 number.bits.toBitVec).toNat = number.fractionField := by
  show (number.bits.toBitVec.extractLsb 51 0).toNat = _
  rw [BitVec.extractLsb_toNat, fractionField]
  rfl

/-- A number is a NaN exactly if all exponent bits are set and the fraction is not
zero. -/
theorem isNaN_eq_true_iff {number : Double} :
    number.isNaN = true ↔ number.isSpecial = true ∧ number.fractionField ≠ 0 := by
  rw [isNaN_eq, unpacked, isSpecial, decide_eq_true_iff, ← toNat_unpackExponent,
    ← toNat_unpackMantissa]
  generalize number.bits.toBitVec = word
  cases sort64 word with
  | infinity sign =>
    rw [unpack_infinity, unpackMantissa_packComponents]
    exact ⟨nofun, fun fields => absurd rfl fields.2⟩
  | notANumber sign nonzero =>
    rw [unpack_notANumber sign nonzero, unpackExponent_packComponents,
      unpackMantissa_packComponents]
    exact ⟨fun _ => ⟨rfl, (toNat_pos nonzero).ne'⟩, fun _ => rfl⟩
  | zero sign =>
    rw [unpack_zero, unpackMantissa_packComponents]
    exact ⟨nofun, fun fields => absurd rfl fields.2⟩
  | subnormal sign nonzero =>
    rw [unpack_subnormal sign nonzero, unpackExponent_packComponents]
    exact ⟨nofun, fun fields => absurd fields.1 (by decide)⟩
  | normal sign fraction special normal =>
    rw [unpack_normal sign fraction special normal, unpackExponent_packComponents]
    exact ⟨nofun, fun fields => absurd (BitVec.eq_of_toNat_eq fields.1) special⟩

/-- A number is a zero exactly if the exponent and the fraction are zero. -/
theorem isZero_eq_true_iff {number : Double} :
    number.isZero = true ↔ number.exponentField = 0 ∧ number.fractionField = 0 := by
  have zeroUnpacked : zero.unpacked = .zero .positive := unpack_zero .positive
  rw [isZero, equal_eq, order_eq, zeroUnpacked, unpacked, ← toNat_unpackExponent,
    ← toNat_unpackMantissa]
  generalize number.bits.toBitVec = word
  cases sort64 word with
  | infinity sign =>
    rw [unpack_infinity, unpackExponent_packComponents]
    exact ⟨by cases sign <;> nofun, fun fields => absurd fields.1 (by decide)⟩
  | notANumber sign nonzero =>
    rw [unpack_notANumber sign nonzero, unpackExponent_packComponents]
    exact ⟨nofun, fun fields => absurd fields.1 (by decide)⟩
  | zero sign =>
    rw [unpack_zero, unpackExponent_packComponents, unpackMantissa_packComponents]
    exact ⟨fun _ => ⟨rfl, rfl⟩, fun _ => rfl⟩
  | subnormal sign nonzero =>
    rw [unpack_subnormal sign nonzero, unpackMantissa_packComponents]
    exact ⟨by cases sign <;> nofun, fun fields => absurd fields.2 (toNat_pos nonzero).ne'⟩
  | normal sign fraction special normal =>
    rw [unpack_normal sign fraction special normal, unpackExponent_packComponents]
    exact ⟨by cases sign <;> nofun,
      fun fields => absurd (BitVec.eq_of_toNat_eq fields.1) normal⟩

theorem signBit_eq_true_iff {number : Double} :
    number.signBit = true ↔ 2 ^ 63 ≤ number.bits.toNat := by
  have shifted : (number.bits >>> 63).toNat = number.bits.toNat / 2 ^ 63 := by
    rw [UInt64.toNat_shiftRight, Nat.shiftRight_eq_div_pow]
    rfl
  have below := number.bits.toNat_lt
  rw [signBit, decide_eq_true_iff, ← UInt64.toNat_inj, shifted]
  show number.bits.toNat / 2 ^ 63 = 1 ↔ _
  omega

theorem exponentField_eq (number : Double) :
    number.exponentField = number.bits.toNat / 2 ^ 52 % 2048 := by
  rw [exponentField, UInt64.toNat_shiftRight, Nat.shiftRight_eq_div_pow]
  rfl

theorem fractionField_eq (number : Double) :
    number.fractionField = number.bits.toNat % 2 ^ 52 := rfl

/-- The sign, the exponent and the fraction determine the number. -/
theorem eq_of_fields {first second : Double} (sign : first.signBit = second.signBit)
    (exponent : first.exponentField = second.exponentField)
    (fraction : first.fractionField = second.fractionField) : first = second := by
  rw [Bool.eq_iff_iff, signBit_eq_true_iff, signBit_eq_true_iff] at sign
  rw [exponentField_eq, exponentField_eq] at exponent
  rw [fractionField_eq, fractionField_eq] at fraction
  have firstBelow := first.bits.toNat_lt
  have secondBelow := second.bits.toNat_lt
  have same : first.bits.toNat = second.bits.toNat := by omega
  cases first
  cases second
  exact congrArg Double.mk (UInt64.toNat_inj.mp same)

/-- The zero with the sign bit set. -/
def negativeZero : Double := ⟨0x8000000000000000⟩

theorem isZero_iff {number : Double} :
    number.isZero = true ↔ number = zero ∨ number = negativeZero := by
  constructor
  · intro isZero
    obtain ⟨exponent, fraction⟩ := isZero_eq_true_iff.mp isZero
    cases sign : number.signBit with
    | false => exact Or.inl (eq_of_fields sign exponent fraction)
    | true => exact Or.inr (eq_of_fields sign exponent fraction)
  · rintro (rfl | rfl) <;> decide +kernel

theorem withoutZeroSign_eq_self_iff {number : Double} :
    number.withoutZeroSign = number ↔ number ≠ negativeZero := by
  rw [withoutZeroSign]
  split
  · next isZero =>
    rcases isZero_iff.mp isZero with rfl | rfl <;> decide
  · next different =>
    constructor
    · rintro _ rfl
      exact different (isZero_iff.mpr (Or.inr rfl))
    · exact fun _ => rfl

theorem withoutZeroSign_ne_negativeZero (number : Double) :
    number.withoutZeroSign ≠ negativeZero := by
  rw [withoutZeroSign]
  split
  · decide
  · next different =>
    rintro rfl
    exact different (isZero_iff.mpr (Or.inr rfl))

end FloatLogic.Double
