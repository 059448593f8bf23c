/-!
# The shortest decimal inside an interval

A decimal is a count of steps of size `10 ^ exponent`.  Around a value lies the
interval of all numbers that read back as that value; the shortest decimal is
taken from the coarsest grid with a point inside the interval, and of that
grid's points it is the one nearest the value, the larger of two equally near.
All quantities are natural numbers over one common unit, so the search is exact.
-/

namespace FloatLogic.Decimal

/-- A value with the numbers that stand for it; the two ends belong to the
interval exactly when it is `closed`. -/
structure Interval where
  low : Nat
  value : Nat
  high : Nat
  closed : Bool
deriving DecidableEq

namespace Interval

/-- Whether a number lies in the interval. -/
def contains (interval : Interval) (number : Nat) : Bool :=
  if interval.closed then
    interval.low ≤ number && number ≤ interval.high
  else
    interval.low < number && number < interval.high

/-- How many steps give the multiple of `step` inside the interval that is
nearest the value; of two equally near multiples, the larger. -/
def nearestMultiple (interval : Interval) (step : Nat) : Option Nat :=
  let below := interval.value / step
  let above := below + 1
  match interval.contains (below * step), interval.contains (above * step) with
  | true, true =>
    if interval.value - below * step < above * step - interval.value then
      some below
    else
      some above
  | true, false => some below
  | false, true => some above
  | false, false => none

/-- The digits and the exponent of the shortest decimal whose exponent is at
most the given one.  The grid of step one always holds the value itself. -/
def shortestFrom (interval : Interval) : Nat → Nat × Nat
  | 0 => (interval.value, 0)
  | exponent + 1 =>
    match interval.nearestMultiple (Nat.pow 10 (exponent + 1)) with
    | some digits => (digits, exponent + 1)
    | none => interval.shortestFrom exponent

/-- An exponent whose power of ten exceeds `number`, and by little: the common
logarithm of two lies just below 28/93. -/
def exponentBound (number : Nat) : Nat := (number.log2 + 1) * 28 / 93 + 1

/-- The digits and the exponent of the shortest decimal in the interval. -/
def shortest (interval : Interval) : Nat × Nat :=
  interval.shortestFrom (exponentBound interval.high)

end Interval

end FloatLogic.Decimal
