import FloatLogic.Proofs.Folding.Value

/-!
# Static values

Some of the truth values of a tree are known before any variable has a value: those
of its truth values, those of its comparisons of a term with itself, and what the
strong Kleene tables make of these.  Building a tree again folds it to a truth value
exactly if the static value is known, and it is that value.
-/

namespace FloatLogic

/-! ## The strong Kleene tables

A truth value that is not known is `none`.  The value of a node is known if it is
the same for all values of the operands that are not known. -/

namespace Kleene

/-- The conjunction is known if one operand is false or both are known. -/
def conjunction : Option Bool → Option Bool → Option Bool
  | some false, _ => some false
  | _, some false => some false
  | some true, some true => some true
  | _, _ => none

/-- The disjunction is known if one operand is true or both are known. -/
def disjunction : Option Bool → Option Bool → Option Bool
  | some true, _ => some true
  | _, some true => some true
  | some false, some false => some false
  | _, _ => none

/-- The negation is known if the operand is. -/
def negation : Option Bool → Option Bool
  | some value => some !value
  | none => none

end Kleene

namespace Connective

/-- The table of a connective. -/
def kleene : Connective → Option Bool → Option Bool → Option Bool
  | and => Kleene.conjunction
  | or => Kleene.disjunction

variable {connective : Connective} {value : Option Bool} {neutral : Bool}

theorem kleene_absorbing_left :
    connective.kleene (some connective.absorbing) value = some connective.absorbing := by
  cases connective <;> rfl

theorem kleene_absorbing_right :
    connective.kleene value (some connective.absorbing) = some connective.absorbing := by
  cases connective <;> rcases value with _ | (_ | _) <;> rfl

/-- A truth value other than the absorbing one leaves it to the right operand whether
the value is known. -/
theorem kleene_neutral_left (different : neutral ≠ connective.absorbing) :
    connective.kleene (some neutral) value = value := by
  cases connective <;> cases neutral <;> first | exact absurd rfl different | skip
  all_goals rcases value with _ | (_ | _) <;> rfl

/-- A truth value other than the absorbing one leaves it to the left operand whether
the value is known. -/
theorem kleene_neutral_right (different : neutral ≠ connective.absorbing) :
    connective.kleene value (some neutral) = value := by
  cases connective <;> cases neutral <;> first | exact absurd rfl different | skip
  all_goals rcases value with _ | (_ | _) <;> rfl

theorem kleene_none : connective.kleene none none = none := by
  cases connective <;> rfl

end Connective

namespace Formula

/-- The truth value of a tree as far as it is known without the values of the
variables. -/
def staticValue : Formula → Option Bool
  | truth value => some value
  | comparison relation left right =>
    if left = right then some (relation ∈ [Comparison.eq, .le, .ge]) else none
  | junction connective left right => connective.kleene left.staticValue right.staticValue
  | negation operand => Kleene.negation operand.staticValue
  | universal _ _ => none

/-! ## Folding by the tables -/

theorem truth?_compare (relation : Comparison) (left right : Term) :
    (compare relation left right).truth? = (comparison relation left right).staticValue := by
  rw [staticValue]
  by_cases same : left = right
  · rw [same, compare_self, if_pos rfl]
    cases relation <;> rfl
  · rw [compare_of_ne relation same, if_neg same]
    rfl

theorem truth?_join (connective : Connective) (left right : Formula) :
    (join connective left right).truth? = connective.kleene left.truth? right.truth? := by
  by_cases absorbed : Absorbs connective left right
  · rw [join_of_absorbs absorbed]
    rcases absorbed with leftAbsorbing | rightAbsorbing
    · rw [leftAbsorbing, Connective.kleene_absorbing_left]
      rfl
    · rw [rightAbsorbing, Connective.kleene_absorbing_right]
      rfl
  · rcases join_of_not_absorbs absorbed with
      ⟨neutral, different, rfl, joined⟩ | ⟨neutral, different, rfl, joined⟩ |
        ⟨⟨leftOpen, rightOpen⟩, joined⟩
    · rw [joined]
      exact (Connective.kleene_neutral_left different).symm
    · rw [joined]
      exact (Connective.kleene_neutral_right different).symm
    · rw [joined, leftOpen, rightOpen, Connective.kleene_none]
      rfl

theorem truth?_negate (operand : Formula) :
    operand.negate.truth? = Kleene.negation operand.truth? := by
  rw [negate, negateLogged]
  cases operand.truth? <;> rfl

/-- A tree folds to a truth value exactly if its static value is known. -/
theorem truth?_build (tree : Formula) : tree.build.truth? = tree.staticValue := by
  induction tree with
  | truth value => rfl
  | comparison relation left right => exact truth?_compare relation left right
  | junction connective left right leftHypothesis rightHypothesis =>
    rw [build_junction, truth?_join, leftHypothesis, rightHypothesis, staticValue]
  | negation operand inductionHypothesis =>
    rw [build_negation, truth?_negate, inductionHypothesis, staticValue]
  | universal binders body => rfl

theorem kind_eq_truth_iff {formula : Formula} {value : Bool} :
    formula.kind = .truth value ↔ formula.truth? = some value := by
  cases formula <;> simp [kind, truth?]

/-- Building a tree again gives the formula `True` exactly if its static value is
true, the formula `False` exactly if it is false, and neither exactly if it is not
known. -/
theorem kind_build_iff (tree : Formula) :
    (tree.build.kind = .truth true ↔ tree.staticValue = some true) ∧
      (tree.build.kind = .truth false ↔ tree.staticValue = some false) ∧
      (tree.build.kind ≠ .truth true ∧ tree.build.kind ≠ .truth false ↔
        tree.staticValue = none) := by
  simp only [ne_eq, kind_eq_truth_iff, truth?_build, true_and]
  cases tree.staticValue with
  | none => simp
  | some value => cases value <;> simp

end Formula

end FloatLogic
