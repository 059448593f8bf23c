import Mathlib.Logic.Basic
import FloatLogic.Formula

/-!
# Subterms and subformulas

The terms below a term and the formulas below a formula, each together with
itself.  A statement about all divisions, all comparisons or all quantifiers of
a formula is a statement about the members of these lists, whatever stands
between them and the root.
-/

namespace FloatLogic

namespace Term

/-- A term and all terms below it. -/
def subterms : Term → List Term
  | constant value => [constant value]
  | var v => [var v]
  | neg operand => neg operand :: operand.subterms
  | binary operation left right =>
    binary operation left right :: (left.subterms ++ right.subterms)

variable {part operand left right : Term} {operation : Arithmetic}

@[simp]
theorem mem_subterms_constant {value : Double} :
    part ∈ (Term.constant value).subterms ↔ part = .constant value := by
  simp [subterms]

@[simp]
theorem mem_subterms_var {v : Variable} : part ∈ (Term.var v).subterms ↔ part = .var v := by
  simp [subterms]

@[simp]
theorem mem_subterms_neg :
    part ∈ (Term.neg operand).subterms ↔ part = .neg operand ∨ part ∈ operand.subterms := by
  simp [subterms]

@[simp]
theorem mem_subterms_binary :
    part ∈ (Term.binary operation left right).subterms ↔
      part = .binary operation left right ∨ part ∈ left.subterms ∨ part ∈ right.subterms := by
  simp [subterms]

end Term

namespace Formula

/-- A formula and all formulas below it. -/
def subformulas : Formula → List Formula
  | truth value => [truth value]
  | comparison relation left right => [comparison relation left right]
  | junction connective left right =>
    junction connective left right :: (left.subformulas ++ right.subformulas)
  | negation operand => negation operand :: operand.subformulas
  | universal binders body => universal binders body :: body.subformulas

variable {part operand body first second : Formula}

@[simp]
theorem mem_subformulas_truth {value : Bool} :
    part ∈ (Formula.truth value).subformulas ↔ part = .truth value := by
  simp [subformulas]

@[simp]
theorem mem_subformulas_comparison {relation : Comparison} {left right : Term} :
    part ∈ (Formula.comparison relation left right).subformulas ↔
      part = .comparison relation left right := by
  simp [subformulas]

@[simp]
theorem mem_subformulas_junction {connective : Connective} :
    part ∈ (Formula.junction connective first second).subformulas ↔
      part = .junction connective first second ∨
        part ∈ first.subformulas ∨ part ∈ second.subformulas := by
  simp [subformulas]

@[simp]
theorem mem_subformulas_negation :
    part ∈ (Formula.negation operand).subformulas ↔
      part = .negation operand ∨ part ∈ operand.subformulas := by
  simp [subformulas]

@[simp]
theorem mem_subformulas_universal {binders : VarSet} :
    part ∈ (Formula.universal binders body).subformulas ↔
      part = .universal binders body ∨ part ∈ body.subformulas := by
  simp [subformulas]

/-! ## Conditions on all parts -/

/-- No quantifier occurs in the formula. -/
def QuantifierFree (formula : Formula) : Prop :=
  ∀ binders body, universal binders body ∉ formula.subformulas

@[simp]
theorem quantifierFree_truth {value : Bool} : (Formula.truth value).QuantifierFree := by
  simp [QuantifierFree]

@[simp]
theorem quantifierFree_comparison {relation : Comparison} {left right : Term} :
    (Formula.comparison relation left right).QuantifierFree := by
  simp [QuantifierFree]

@[simp]
theorem quantifierFree_junction_iff {connective : Connective} :
    (Formula.junction connective first second).QuantifierFree ↔
      first.QuantifierFree ∧ second.QuantifierFree := by
  simp [QuantifierFree, not_or, forall_and]

@[simp]
theorem quantifierFree_negation_iff :
    (Formula.negation operand).QuantifierFree ↔ operand.QuantifierFree := by
  simp [QuantifierFree]

@[simp]
theorem not_quantifierFree_universal {binders : VarSet} :
    ¬ (Formula.universal binders body).QuantifierFree := by
  intro free
  exact free binders body (by simp)

/-- No junction occurs in the formula. -/
def JunctionFree (formula : Formula) : Prop :=
  ∀ connective left right, junction connective left right ∉ formula.subformulas

@[simp]
theorem junctionFree_truth {value : Bool} : (Formula.truth value).JunctionFree := by
  simp [JunctionFree]

@[simp]
theorem junctionFree_comparison {relation : Comparison} {left right : Term} :
    (Formula.comparison relation left right).JunctionFree := by
  simp [JunctionFree]

@[simp]
theorem not_junctionFree_junction {connective : Connective} :
    ¬ (Formula.junction connective first second).JunctionFree := by
  intro free
  exact free connective first second (by simp)

@[simp]
theorem junctionFree_negation_iff :
    (Formula.negation operand).JunctionFree ↔ operand.JunctionFree := by
  simp [JunctionFree]

/-- A condition holds for the two operands of every comparison in the formula. -/
def ForallComparisons (condition : Term → Term → Prop) (formula : Formula) : Prop :=
  ∀ relation left right, comparison relation left right ∈ formula.subformulas →
    condition left right

variable {condition : Term → Term → Prop}

@[simp]
theorem forallComparisons_truth {value : Bool} :
    (Formula.truth value).ForallComparisons condition := by
  simp [ForallComparisons]

@[simp]
theorem forallComparisons_comparison_iff {relation : Comparison} {left right : Term} :
    (Formula.comparison relation left right).ForallComparisons condition ↔
      condition left right := by
  constructor
  · intro all
    exact all relation left right (by simp)
  · intro holds other otherLeft otherRight otherMem
    cases mem_subformulas_comparison.mp otherMem
    exact holds

@[simp]
theorem forallComparisons_junction_iff {connective : Connective} :
    (Formula.junction connective first second).ForallComparisons condition ↔
      first.ForallComparisons condition ∧ second.ForallComparisons condition := by
  simp [ForallComparisons, or_imp, forall_and]

@[simp]
theorem forallComparisons_negation_iff :
    (Formula.negation operand).ForallComparisons condition ↔
      operand.ForallComparisons condition := by
  simp [ForallComparisons]

@[simp]
theorem forallComparisons_universal_iff {binders : VarSet} :
    (Formula.universal binders body).ForallComparisons condition ↔
      body.ForallComparisons condition := by
  simp [ForallComparisons]

end Formula

end FloatLogic
