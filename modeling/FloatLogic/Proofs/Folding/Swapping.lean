import FloatLogic.Proofs.Folding.StaticValue
import FloatLogic.VarSet.Lemmas

/-!
# Swapped operands

A folded junction and the junction of the swapped operands differ at most in the
failure that they report: they have the same value wherever they have one, the same
free variables, and they fold to a truth value alike.  The same holds for a comparison
and its mirror image.
-/

namespace FloatLogic

/-- Two evaluations have values in one order exactly if they have them in the other
order; only the failure can be a different one. -/
theorem bind_bind_eq_ok_swap {α β γ : Type} {first : Except Failure α}
    {second : Except Failure β} {next : α → β → γ} {swappedNext : β → α → γ} {result : γ}
    (swapped : ∀ value other, next value other = swappedNext other value) :
    (do
      let value ← first
      let other ← second
      .ok (next value other)) = Except.ok result ↔
    (do
      let other ← second
      let value ← first
      .ok (swappedNext other value)) = Except.ok result := by
  simp only [bind_bind_eq_ok_iff, swapped]
  constructor
  · rintro ⟨value, other, firstOk, secondOk, same⟩
    exact ⟨other, value, secondOk, firstOk, same⟩
  · rintro ⟨other, value, secondOk, firstOk, same⟩
    exact ⟨value, other, firstOk, secondOk, same⟩

namespace Connective

theorem apply_comm (connective : Connective) (left right : Bool) :
    connective.apply left right = connective.apply right left := by
  cases connective with
  | and => exact Bool.and_comm left right
  | or => exact Bool.or_comm left right

theorem kleene_comm (connective : Connective) (left right : Option Bool) :
    connective.kleene left right = connective.kleene right left := by
  cases connective <;> rcases left with _ | (_ | _) <;> rcases right with _ | (_ | _) <;> rfl

end Connective

namespace Comparison

/-- The comparison that holds between the swapped numbers. -/
def mirror : Comparison → Comparison
  | eq => eq
  | ne => ne
  | lt => gt
  | le => ge
  | gt => lt
  | ge => le

theorem holds_mirror (relation : Comparison) (left right : Double) :
    relation.mirror.holds right left = relation.holds left right := by
  cases relation with
  | eq => exact Double.equal_comm right left
  | ne => exact congrArg (!·) (Double.equal_comm right left)
  | lt | le | gt | ge => rfl

theorem reflexive_mirror (relation : Comparison) :
    relation.mirror.reflexive = relation.reflexive := by
  cases relation <;> rfl

end Comparison

theorem VarSet.union_comm (left right : VarSet) : left ∪ right = right ∪ left :=
  VarSet.ext fun v => by rw [VarSet.mem_union, VarSet.mem_union, or_comm]

namespace Formula

/-- Two formulas differ at most in the failure that they report: they have the same
values, the same free variables, and if one is a truth value, so is the other. -/
structure SameButFailures (first second : Formula) : Prop where
  values : ∀ (environment : Environment) (value : Bool),
    first.evaluate environment = .ok value ↔ second.evaluate environment = .ok value
  freeVariables : first.freeVariables = second.freeVariables
  truths : ∀ value, first = .truth value ↔ second = .truth value

variable {connective : Connective} {first second : Formula}

/-! ## Junctions -/

theorem absorbs_comm : Absorbs connective first second ↔ Absorbs connective second first :=
  or_comm

/-- A junction that no operand decides has the free variables of both operands. -/
theorem freeVariables_join_of_not_absorbs (unabsorbed : ¬ Absorbs connective first second) :
    (join connective first second).freeVariables = first.freeVariables ∪ second.freeVariables := by
  have emptyLeft (set : VarSet) : set = ∅ ∪ set := VarSet.ext fun v => by simp
  have emptyRight (set : VarSet) : set = set ∪ ∅ := VarSet.ext fun v => by simp
  rcases join_of_not_absorbs unabsorbed with
    ⟨neutral, _, rfl, joined⟩ | ⟨neutral, _, rfl, joined⟩ | ⟨_, joined⟩
  · rw [joined]
    exact emptyLeft _
  · rw [joined]
    exact emptyRight _
  · rw [joined]
    rfl

theorem sameButFailures_join (connective : Connective) (first second : Formula) :
    SameButFailures (join connective first second) (join connective second first) where
  values environment value := by
    by_cases absorbed : Absorbs connective first second
    · rw [join_of_absorbs absorbed, join_of_absorbs (absorbs_comm.mp absorbed)]
    · rw [evaluate_join_of_not_absorbs absorbed,
        evaluate_join_of_not_absorbs (mt absorbs_comm.mp absorbed)]
      exact bind_bind_eq_ok_swap connective.apply_comm
  freeVariables := by
    by_cases absorbed : Absorbs connective first second
    · rw [join_of_absorbs absorbed, join_of_absorbs (absorbs_comm.mp absorbed)]
    · rw [freeVariables_join_of_not_absorbs absorbed,
        freeVariables_join_of_not_absorbs (mt absorbs_comm.mp absorbed), VarSet.union_comm]
  truths value := by
    rw [← truth?_eq_some_iff, ← truth?_eq_some_iff, truth?_join, truth?_join,
      Connective.kleene_comm]

/-! ## Comparisons -/

theorem sameButFailures_compare (relation : Comparison) (left right : Term) :
    SameButFailures (compare relation left right) (compare relation.mirror right left) := by
  by_cases same : left = right
  · rw [same, compare_self, compare_self, Comparison.reflexive_mirror]
    exact ⟨fun _ _ => Iff.rfl, rfl, fun _ => Iff.rfl⟩
  · rw [compare_of_ne _ same, compare_of_ne _ (Ne.symm same)]
    refine ⟨fun environment value => ?_, VarSet.union_comm _ _, fun value => by simp⟩
    rw [evaluate_comparison, evaluate_comparison]
    exact bind_bind_eq_ok_swap fun leftValue rightValue =>
      (relation.holds_mirror leftValue rightValue).symm

/-- Swapping the operands of a junction or of a comparison changes nothing but the
failure that is reported. -/
theorem swapping_keeps_success (first second : Formula) (left right : Term) :
    SameButFailures (and first second) (and second first) ∧
      SameButFailures (or first second) (or second first) ∧
      SameButFailures (compare .eq left right) (compare .eq right left) ∧
      SameButFailures (compare .ne left right) (compare .ne right left) ∧
      SameButFailures (compare .lt left right) (compare .gt right left) ∧
      SameButFailures (compare .le left right) (compare .ge right left) :=
  ⟨sameButFailures_join .and first second, sameButFailures_join .or first second,
    sameButFailures_compare .eq left right, sameButFailures_compare .ne left right,
    sameButFailures_compare .lt left right, sameButFailures_compare .le left right⟩

end Formula

end FloatLogic
