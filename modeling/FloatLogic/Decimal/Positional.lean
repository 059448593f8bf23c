import FloatLogic.Double
import FloatLogic.Decimal.Shortest

/-!
# The decimal text of a number

A finite number is written with the fewest digits that read back as it, always
positionally: no exponent, no point after an integer.  The sign of zero is
kept.  The other texts are `NaN`, `inf` and `-inf`.
-/

namespace FloatLogic

namespace Decimal

/-- The characters of `digits · 10 ^ exponent / 10 ^ places`, written without an
exponent.  No zero is added after the point behind the last digit. -/
def positional (digits exponent places : Nat) : List Char :=
  let figures := Nat.toDigits 10 digits
  let decimals := places - exponent
  if decimals = 0 then
    figures ++ List.replicate (exponent - places) '0'
  else if decimals < figures.length then
    figures.take (figures.length - decimals) ++ '.' ::
      figures.drop (figures.length - decimals)
  else
    '0' :: '.' :: (List.replicate (decimals - figures.length) '0' ++ figures)

end Decimal

namespace Double

/-- The significand from which on a number is stored without its leading bit. -/
def leadingBit : Nat := Nat.pow 2 52

/-- The sign bit. -/
def signBit (number : Double) : Bool := number.bits >>> (63 : UInt64) = 1

/-- The eleven exponent bits. -/
def exponentField (number : Double) : Nat := (number.bits >>> (52 : UInt64)).toNat % 2048

/-- The fifty-two fraction bits. -/
def fractionField (number : Double) : Nat := number.bits.toNat % leadingBit

/-- Whether the exponent bits are those of the infinities and the NaNs. -/
def isSpecial (number : Double) : Bool := number.exponentField = 2047

/-- The magnitude of a finite number as a significand and a count of doublings
of the unit `2 ^ -1074`. -/
def magnitude (number : Double) : Nat × Nat :=
  match number.exponentField with
  | 0 => (number.fractionField, 0)
  | doublings + 1 => (leadingBit + number.fractionField, doublings)

/-- How many decimal places make every bound between two finite numbers a whole
number of units. -/
def decimalPlaces : Nat := 1076

/-- The numbers that round to a positive finite number, in units of
`10 ^ -decimalPlaces`.  The gap below a power of two is half the gap above it,
and the bounds themselves round to an even significand. -/
def roundingInterval (number : Double) : Decimal.Interval :=
  let (significand, doublings) := number.magnitude
  let unit := Nat.pow 2 doublings * Nat.pow 5 decimalPlaces
  let gapBelow := if significand = leadingBit ∧ doublings ≠ 0 then 1 else 2
  { low := (4 * significand - gapBelow) * unit
    value := 4 * significand * unit
    high := (4 * significand + 2) * unit
    closed := significand % 2 = 0 }

/-- The characters of the magnitude of a finite number. -/
def magnitudeFigures (number : Double) : List Char :=
  if number.magnitude.1 = 0 then
    ['0']
  else
    let (digits, exponent) := number.roundingInterval.shortest
    Decimal.positional digits exponent decimalPlaces

/-- The decimal text of a number. -/
def text (number : Double) : String :=
  if number.isSpecial then
    if number.fractionField ≠ 0 then "NaN" else if number.signBit then "-inf" else "inf"
  else if number.signBit then
    String.ofList ('-' :: number.magnitudeFigures)
  else
    String.ofList number.magnitudeFigures

/-! Integers have no point, small numbers no exponent, and of the two shortest
texts at the same distance from `2 ^ -25` the larger one is written. -/

example : text ⟨0x4014000000000000⟩ = "5" := by decide +kernel
example : text ⟨0xbfb999999999999a⟩ = "-0.1" := by decide +kernel
example : text ⟨0x4480f0cf064dd592⟩ = "10000000000000000000000" := by decide +kernel
example : text ⟨0x3e60000000000000⟩ = "0.000000029802322387695313" := by decide +kernel
example : text ⟨0x8000000000000000⟩ = "-0" := by decide +kernel

end Double

end FloatLogic
