import Mathlib.Logic.Basic
import FloatLogic.Proofs.Subformula
import FloatLogic.VarSet.Lemmas

/-!
# Occurrences of comparisons

The comparisons of a formula from left to right, each with the sets of variables
that the quantifiers around it bind.  This is the view of a formula from the root
down: a variable is free exactly if it is a leaf of some comparison that no
quantifier around it shields (`mem_freeVariables_iff`), whereas `freeVariables`
unites and subtracts sets from the leaves up.
-/

namespace FloatLogic

/-- A variable of a term is one of its leaves. -/
theorem Term.mem_vars_iff {v : Variable} (term : Term) :
    v ∈ term.vars ↔ .var v ∈ term.subterms := by
  induction term with
  | constant value => simp [vars]
  | var w => simp [vars]
  | neg operand inductionHypothesis => simp [vars, inductionHypothesis]
  | binary operation left right leftHypothesis rightHypothesis =>
    simp [vars, leftHypothesis, rightHypothesis]

/-- A comparison inside a formula, with the binders of the quantifiers around it,
the outermost first. -/
structure Occurrence where
  binders : List VarSet
  relation : Comparison
  left : Term
  right : Term

namespace Occurrence

/-- An occurrence below one more quantifier. -/
def under (binders : VarSet) (occurrence : Occurrence) : Occurrence :=
  { occurrence with binders := binders :: occurrence.binders }

/-- A variable is a leaf of one of the two operands. -/
def Mentions (occurrence : Occurrence) (v : Variable) : Prop :=
  .var v ∈ occurrence.left.subterms ∨ .var v ∈ occurrence.right.subterms

/-- A quantifier around the comparison binds the variable. -/
def Binds (occurrence : Occurrence) (v : Variable) : Prop :=
  ∃ binders ∈ occurrence.binders, v ∈ binders

variable {occurrence : Occurrence} {v : Variable} {binders : VarSet}

@[simp]
theorem mentions_under : (occurrence.under binders).Mentions v ↔ occurrence.Mentions v := Iff.rfl

@[simp]
theorem binds_under :
    (occurrence.under binders).Binds v ↔ v ∈ binders ∨ occurrence.Binds v := by
  simp [Binds, under]

end Occurrence

namespace Formula

/-- The comparisons of a formula from left to right. -/
def occurrences : Formula → List Occurrence
  | truth _ => []
  | comparison relation left right => [⟨[], relation, left, right⟩]
  | junction _ left right => left.occurrences ++ right.occurrences
  | negation operand => operand.occurrences
  | universal binders body => body.occurrences.map (Occurrence.under binders)

/-- Some comparison has the variable as a leaf and is under no quantifier that binds
it. -/
def OccursFree (formula : Formula) (v : Variable) : Prop :=
  ∃ occurrence ∈ formula.occurrences, occurrence.Mentions v ∧ ¬ occurrence.Binds v

/-- The free variables of a formula are the variables that occur free in it. -/
theorem mem_freeVariables_iff {v : Variable} (formula : Formula) :
    v ∈ formula.freeVariables ↔ formula.OccursFree v := by
  unfold OccursFree
  induction formula with
  | truth value => simp [freeVariables, occurrences]
  | comparison relation left right =>
    simp [freeVariables, occurrences, Occurrence.Mentions, Occurrence.Binds, Term.mem_vars_iff]
  | junction connective left right leftHypothesis rightHypothesis =>
    simp only [freeVariables, occurrences, VarSet.mem_union, leftHypothesis, rightHypothesis,
      List.mem_append, or_and_right, exists_or]
  | negation operand inductionHypothesis => exact inductionHypothesis
  | universal binders body inductionHypothesis =>
    simp only [freeVariables, occurrences, VarSet.mem_diff, inductionHypothesis,
      List.mem_map, exists_exists_and_eq_and, Occurrence.mentions_under, Occurrence.binds_under,
      not_or]
    -- The quantifier shields the same variable from every comparison below it.
    constructor
    · rintro ⟨⟨occurrence, below, mentioned, unbound⟩, unshielded⟩
      exact ⟨occurrence, below, mentioned, unshielded, unbound⟩
    · rintro ⟨occurrence, below, mentioned, unshielded, unbound⟩
      exact ⟨⟨occurrence, below, mentioned, unbound⟩, unshielded⟩

end Formula

/-! ## Parts of the compared terms -/

/-- The variables of a term from left to right, each as often as it occurs. -/
def Term.leaves : Term → List Variable
  | constant _ => []
  | var v => [v]
  | neg operand => operand.leaves
  | binary _ left right => left.leaves ++ right.leaves

namespace Formula

/-- Some parts of every term that a formula compares, from left to right.  Terms under
quantifiers contribute like all others. -/
def collect {α : Type} (parts : Term → List α) (formula : Formula) : List α :=
  formula.occurrences.flatMap fun occurrence => parts occurrence.left ++ parts occurrence.right

/-- The variables of a formula from left to right, free or bound, each as often as it
occurs in a term. -/
def leaves (formula : Formula) : List Variable := formula.collect Term.leaves

/-- The terms that a formula compares, and the terms below them. -/
def subterms (formula : Formula) : List Term := formula.collect Term.subterms

variable {α : Type} {parts : Term → List α} {operand first second : Formula}

@[simp]
theorem collect_truth {value : Bool} : (Formula.truth value).collect parts = [] := rfl

@[simp]
theorem collect_comparison {relation : Comparison} {left right : Term} :
    (Formula.comparison relation left right).collect parts = parts left ++ parts right :=
  List.append_nil _

@[simp]
theorem collect_junction {connective : Connective} :
    (Formula.junction connective first second).collect parts =
      first.collect parts ++ second.collect parts :=
  List.flatMap_append

@[simp]
theorem collect_negation : (Formula.negation operand).collect parts = operand.collect parts := rfl

end Formula

end FloatLogic
