/-!
# Binary64 numbers

A `Double` is an IEEE 754 binary64 number kept by its 64 bits, so NaN payloads
are told apart.  Arithmetic and comparison are those of `Float`, through
`toFloat` and `ofFloat`: two doubles with different bits can be equal as floats
(the two zeros), and a NaN is equal to nothing.
-/

namespace FloatLogic

/-- A binary64 number, identified by its bits. -/
structure Double where
  bits : UInt64
deriving DecidableEq

namespace Double

/-- Positive zero, the number whose bits are all clear. -/
def zero : Double := ⟨0⟩

/-- The bits of a float; every NaN becomes the one canonical NaN. -/
def ofFloat (value : Float) : Double := ⟨value.toBits⟩

/-- The float with the given bits. -/
def toFloat (number : Double) : Float := Float.ofBits number.bits

instance : Inhabited Double := ⟨zero⟩

/-- Whether the number is a NaN, whatever its payload. -/
def isNaN (number : Double) : Bool := number.toFloat.isNaN

/-! ## Arithmetic -/

/-- The number with the opposite sign. -/
def neg (number : Double) : Double := ofFloat (-number.toFloat)

/-- The rounded sum. -/
def add (left right : Double) : Double := ofFloat (left.toFloat + right.toFloat)

/-- The rounded difference. -/
def sub (left right : Double) : Double := ofFloat (left.toFloat - right.toFloat)

/-- The rounded product. -/
def mul (left right : Double) : Double := ofFloat (left.toFloat * right.toFloat)

/-- The rounded quotient. -/
def div (left right : Double) : Double := ofFloat (left.toFloat / right.toFloat)

/-! ## Comparison -/

/-- Equality of values: the two zeros are equal, a NaN is equal to nothing. -/
def equal (left right : Double) : Bool := left.toFloat == right.toFloat

/-- The strict order of values, false when either side is a NaN. -/
def less (left right : Double) : Bool := left.toFloat.lt right.toFloat

/-- The weak order of values, false when either side is a NaN. -/
def lessEqual (left right : Double) : Bool := left.toFloat.le right.toFloat

/-- Whether the number is one of the two zeros. -/
def isZero (number : Double) : Bool := number.equal zero

/-- Replace negative zero by positive zero and keep every other number, bit for
bit. -/
def withoutZeroSign (number : Double) : Double := if number.isZero then zero else number

end Double

end FloatLogic
