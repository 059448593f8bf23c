import FloatLogic.Formula.Folding
import FloatLogic.Proofs.Evaluation.Results
import Mathlib

/-!
# Results of the folding operations

What evaluation makes of a folded formula, failures included.  A junction with an
absorbing operand has a value whatever the other operand is, and so it loses the
failures of that operand.  In every other case a folded formula has the result that the
plain node has: the truth values that folding drops fail under no environment.
-/

namespace FloatLogic

/-! ## Operations on results -/

/-- Join the results of two operands, the left one first. -/
def Connective.combine (connective : Connective) (first second : Except Failure Bool) :
    Except Failure Bool := do
  let left ← first
  let right ← second
  .ok (connective.apply left right)

/-- Negate a result. -/
def opposite (result : Except Failure Bool) : Except Failure Bool := do
  let value ← result
  .ok !value

namespace Connective

variable {connective : Connective} {neutral value : Bool} {first second : Except Failure Bool}

@[simp]
theorem apply_absorbing_left : connective.apply connective.absorbing value =
    connective.absorbing := by
  cases connective <;> cases value <;> rfl

@[simp]
theorem apply_absorbing_right : connective.apply value connective.absorbing =
    connective.absorbing := by
  cases connective <;> cases value <;> rfl

/-- A truth value other than the absorbing one leaves the right operand as it
is. -/
theorem apply_neutral_left (different : neutral ≠ connective.absorbing) :
    connective.apply neutral value = value := by
  cases connective <;> cases neutral <;> cases value <;> simp_all [absorbing, apply]

/-- A truth value other than the absorbing one leaves the left operand as it
is. -/
theorem apply_neutral_right (different : neutral ≠ connective.absorbing) :
    connective.apply value neutral = value := by
  cases connective <;> cases neutral <;> cases value <;> simp_all [absorbing, apply]

theorem combine_neutral_left (different : neutral ≠ connective.absorbing) :
    connective.combine (.ok neutral) second = second := by
  cases second with
  | error failure => rfl
  | ok value => exact congrArg Except.ok (apply_neutral_left different)

theorem combine_neutral_right (different : neutral ≠ connective.absorbing) :
    connective.combine first (.ok neutral) = first := by
  cases first with
  | error failure => rfl
  | ok value => exact congrArg Except.ok (apply_neutral_right different)

end Connective

namespace Formula

variable {connective : Connective} {left right operand : Formula}

/-- A formula that is a truth value has it under every environment. -/
theorem eq_truth_of_truth?_eq_some {formula : Formula} {value : Bool}
    (constant : formula.truth? = some value) : formula = .truth value := by
  cases formula with
  | truth other =>
    cases constant
    rfl
  | comparison => cases constant
  | junction => cases constant
  | negation => cases constant
  | universal => cases constant

theorem truth?_eq_some_iff {formula : Formula} {value : Bool} :
    formula.truth? = some value ↔ formula = .truth value := by
  constructor
  · exact eq_truth_of_truth?_eq_some
  · rintro rfl
    rfl

/-! ## Junctions -/

/-- An operand decides the junction by itself. -/
def Absorbs (connective : Connective) (left right : Formula) : Prop :=
  left.truth? = some connective.absorbing ∨ right.truth? = some connective.absorbing

theorem join_of_absorbs (absorbed : Absorbs connective left right) :
    join connective left right = .truth connective.absorbing := by
  have folds : connective.fold? left right = some (.truth connective.absorbing) :=
    if_pos absorbed
  rw [join, joinLogged, folds]
  rfl

/-- A junction that no operand decides loses a neutral operand or is not folded. -/
theorem join_of_not_absorbs (unabsorbed : ¬ Absorbs connective left right) :
    (∃ neutral, neutral ≠ connective.absorbing ∧ left = .truth neutral ∧
      join connective left right = right) ∨
    (∃ neutral, neutral ≠ connective.absorbing ∧ right = .truth neutral ∧
      join connective left right = left) ∨
    (left.truth? = none ∧ right.truth? = none) ∧
      join connective left right = .junction connective left right := by
  unfold Absorbs at unabsorbed
  rw [join, joinLogged, Connective.fold?, if_neg unabsorbed]
  rcases not_or.mp unabsorbed with ⟨leftDifferent, rightDifferent⟩
  cases leftConstant : left.truth? with
  | some neutral =>
    refine .inl ⟨neutral, ?_, eq_truth_of_truth?_eq_some leftConstant, rfl⟩
    rintro rfl
    exact leftDifferent leftConstant
  | none =>
    cases rightConstant : right.truth? with
    | some neutral =>
      refine .inr (.inl ⟨neutral, ?_, eq_truth_of_truth?_eq_some rightConstant, rfl⟩)
      rintro rfl
      exact rightDifferent rightConstant
    | none => exact .inr (.inr ⟨⟨rfl, rfl⟩, rfl⟩)

/-- A junction that no operand decides has the result of the plain node. -/
theorem evaluate_join_of_not_absorbs (unabsorbed : ¬ Absorbs connective left right)
    (environment : Environment) :
    (join connective left right).evaluate environment =
      connective.combine (left.evaluate environment) (right.evaluate environment) := by
  rcases join_of_not_absorbs unabsorbed with
    ⟨neutral, different, rfl, joined⟩ | ⟨neutral, different, rfl, joined⟩ | ⟨_, joined⟩
  · rw [joined, evaluate_truth, Connective.combine_neutral_left different]
  · rw [joined, evaluate_truth, Connective.combine_neutral_right different]
  · rw [joined, evaluate_junction]
    rfl

/-- A junction is the absorbing truth value only if an operand decides it. -/
theorem truth?_join_eq_absorbing_iff :
    (join connective left right).truth? = some connective.absorbing ↔
      Absorbs connective left right := by
  constructor
  · intro constant
    by_contra unabsorbed
    rcases join_of_not_absorbs unabsorbed with
      ⟨_, _, _, joined⟩ | ⟨_, _, _, joined⟩ | ⟨_, joined⟩
    · rw [joined] at constant
      exact unabsorbed (.inr constant)
    · rw [joined] at constant
      exact unabsorbed (.inl constant)
    · rw [joined] at constant
      cases constant
  · intro absorbed
    rw [join_of_absorbs absorbed]
    rfl

/-! ## Negations -/

/-- A folded negation has the result of the plain node. -/
theorem evaluate_negate_eq_opposite (operand : Formula) (environment : Environment) :
    operand.negate.evaluate environment = opposite (operand.evaluate environment) := by
  rw [negate, negateLogged]
  cases constant : operand.truth? with
  | some value =>
    rw [eq_truth_of_truth?_eq_some constant]
    rfl
  | none =>
    rw [evaluate_negation]
    rfl

/-! ## Comparisons -/

theorem compare_self (relation : Comparison) (term : Term) :
    compare relation term term = .truth relation.reflexive := by
  rw [compare, compareLogged, if_pos rfl]

theorem compare_of_ne (relation : Comparison) {left right : Term} (different : left ≠ right) :
    compare relation left right = .comparison relation left right := by
  rw [compare, compareLogged, if_neg different]

end Formula

end FloatLogic
