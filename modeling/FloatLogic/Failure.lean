import FloatLogic.Term.Equality

/-!
# Failures of evaluation

An evaluation fails for one of three causes, each of which keeps what is to
blame.
-/

namespace FloatLogic

/-- Why an evaluation fails. -/
inductive Failure where
  /-- Quantifiers have no evaluation. -/
  | quantifier
  /-- A variable has no value. -/
  | unbound (v : Variable)
  /-- A division has a zero denominator, of either sign. -/
  | divisionByZero (numerator denominator : Term)
deriving DecidableEq

end FloatLogic
