import FloatLogic.Proofs.Folding.Canonical
import FloatLogic.Proofs.Folding.Swapping
import FloatLogic.Proofs.Occurrence

/-!
# Folding deletes and does nothing else

The comparisons of a folded tree are some of the comparisons of the tree, in the same
order, with the same operands and under the same binders.  A deleted comparison takes
its variables with it, so folding may shrink the set of free variables; it does so only
at a junction with a truth value.
-/

namespace FloatLogic.Formula

variable {left right : Formula}

/-! ## Occurrences of folded formulas -/

theorem occurrences_compare_sublist (relation : Comparison) (left right : Term) :
    (compare relation left right).occurrences.Sublist [⟨[], relation, left, right⟩] := by
  by_cases same : left = right
  · rw [same, compare_self]
    exact List.nil_sublist _
  · rw [compare_of_ne relation same]
    exact List.Sublist.refl _

theorem occurrences_join_sublist (connective : Connective) (left right : Formula) :
    (join connective left right).occurrences.Sublist (left.occurrences ++ right.occurrences) := by
  by_cases absorbed : Absorbs connective left right
  · rw [join_of_absorbs absorbed]
    exact List.nil_sublist _
  · rcases join_of_not_absorbs absorbed with
      ⟨_, _, _, joined⟩ | ⟨_, _, _, joined⟩ | ⟨_, joined⟩
    · rw [joined]
      exact List.sublist_append_right _ _
    · rw [joined]
      exact List.sublist_append_left _ _
    · rw [joined]
      exact List.Sublist.refl _

/-- A negation that folds away had no comparison to lose. -/
theorem occurrences_negate (operand : Formula) :
    operand.negate.occurrences = operand.occurrences := by
  rw [negate, negateLogged]
  cases constant : operand.truth? with
  | some value =>
    rw [eq_truth_of_truth?_eq_some constant]
    rfl
  | none => rfl

theorem occurrences_build_sublist (tree : Formula) :
    tree.build.occurrences.Sublist tree.occurrences := by
  induction tree with
  | truth value => exact List.Sublist.refl _
  | comparison relation left right => exact occurrences_compare_sublist relation left right
  | junction connective left right leftHypothesis rightHypothesis =>
    rw [build_junction]
    exact (occurrences_join_sublist connective left.build right.build).trans
      (leftHypothesis.append rightHypothesis)
  | negation operand inductionHypothesis =>
    rw [build_negation, occurrences_negate]
    exact inductionHypothesis
  | universal binders body inductionHypothesis =>
    exact inductionHypothesis.map (Occurrence.under binders)

/-! ## Free variables of folded formulas -/

/-- A formula loses free variables with its comparisons and gains none. -/
theorem mem_freeVariables_of_sublist (fewer : left.occurrences.Sublist right.occurrences)
    {v : Variable} (free : v ∈ left.freeVariables) : v ∈ right.freeVariables := by
  rw [mem_freeVariables_iff] at free ⊢
  rcases free with ⟨occurrence, mem, mentioned, unbound⟩
  exact ⟨occurrence, fewer.subset mem, mentioned, unbound⟩

theorem freeVariables_negate (operand : Formula) :
    operand.negate.freeVariables = operand.freeVariables :=
  VarSet.ext fun v => by
    rw [mem_freeVariables_iff, mem_freeVariables_iff, OccursFree, occurrences_negate, OccursFree]

theorem freeVariables_join (connective : Connective) (leftOpen : ∀ value, left ≠ truth value)
    (rightOpen : ∀ value, right ≠ truth value) :
    (join connective left right).freeVariables = left.freeVariables ∪ right.freeVariables := by
  apply freeVariables_join_of_not_absorbs
  rintro (leftAbsorbing | rightAbsorbing)
  · exact leftOpen _ (eq_truth_of_truth?_eq_some leftAbsorbing)
  · exact rightOpen _ (eq_truth_of_truth?_eq_some rightAbsorbing)

/-- The comparisons of a folded tree are a subsequence of those of the tree, each with
its operands and the binders around it, so no variable becomes free.  A conjunction or
disjunction of formulas that are no truth values has the free variables of both, a
negation those of its operand, and a quantification those of its body that it does not
bind. -/
theorem folding_only_deletes :
    (∀ tree : Formula, tree.build.occurrences.Sublist tree.occurrences ∧
      ∀ v ∈ tree.build.freeVariables, v ∈ tree.freeVariables) ∧
    (∀ left right : Formula, (∀ value, left ≠ truth value) → (∀ value, right ≠ truth value) →
      (and left right).freeVariables = left.freeVariables ∪ right.freeVariables ∧
        (or left right).freeVariables = left.freeVariables ∪ right.freeVariables) ∧
    (∀ operand : Formula, operand.negate.freeVariables = operand.freeVariables) ∧
    ∀ (binders : VarSet) (body : Formula),
      (quantify binders body).freeVariables = body.freeVariables \ binders := by
  refine ⟨fun tree => ?_, fun left right leftOpen rightOpen => ?_, freeVariables_negate,
    fun binders body => rfl⟩
  · have fewer := tree.occurrences_build_sublist
    exact ⟨fewer, fun v free => mem_freeVariables_of_sublist fewer free⟩
  · exact ⟨freeVariables_join .and leftOpen rightOpen, freeVariables_join .or leftOpen rightOpen⟩

/-- A variable that is free on the left and bound on the right of a conjunction stays
free. -/
theorem folding_only_deletes_conjunction :
    (∀ value, comparison .lt (.var ⟨0⟩) (.var ⟨1⟩) ≠ truth value) ∧
      (∀ value, universal (.ofList [⟨0⟩]) (comparison .eq (.var ⟨0⟩) (.var ⟨2⟩)) ≠ truth value) ∧
      (and (comparison .lt (.var ⟨0⟩) (.var ⟨1⟩))
        (universal (.ofList [⟨0⟩]) (comparison .eq (.var ⟨0⟩) (.var ⟨2⟩)))).freeVariables =
        .ofList [⟨0⟩, ⟨1⟩, ⟨2⟩] := by
  have leftOpen : ∀ value, comparison .lt (.var ⟨0⟩) (.var ⟨1⟩) ≠ truth value := by simp
  have rightOpen : ∀ value, universal (.ofList [⟨0⟩]) (comparison .eq (.var ⟨0⟩) (.var ⟨2⟩)) ≠
      truth value := by simp
  refine ⟨leftOpen, rightOpen, ?_⟩
  rw [(folding_only_deletes.2.1 _ _ leftOpen rightOpen).1]
  decide +kernel

end FloatLogic.Formula
