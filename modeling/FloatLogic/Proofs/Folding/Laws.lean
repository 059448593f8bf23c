import FloatLogic.Proofs.Folding.StaticValue

/-!
# Boolean laws of the folding operations

The laws of Boolean algebra hold for formulas that are built by the folding operations
in the strictest sense: both sides of a law have the same value or the same failure
under every environment.  Folding drops operands together with their failures, but it
drops them on both sides of a law alike.
-/

namespace FloatLogic

namespace Connective

variable {connective : Connective} {first second third : Except Failure Bool}

/-- The connective that negation turns into this one. -/
def dual : Connective → Connective
  | and => or
  | or => and

theorem absorbing_dual : connective.dual.absorbing = !connective.absorbing := by
  cases connective <;> rfl

theorem apply_dual (left right : Bool) :
    connective.dual.apply (!left) (!right) = !connective.apply left right := by
  cases connective with
  | and => exact (Bool.not_and left right).symm
  | or => exact (Bool.not_or left right).symm

theorem apply_assoc (left middle right : Bool) :
    connective.apply (connective.apply left middle) right =
      connective.apply left (connective.apply middle right) := by
  cases connective with
  | and => exact Bool.and_assoc left middle right
  | or => exact Bool.or_assoc left middle right

theorem apply_self (value : Bool) : connective.apply value value = value := by
  cases connective with
  | and => exact Bool.and_self value
  | or => exact Bool.or_self value

theorem opposite_combine :
    opposite (connective.combine first second) =
      connective.dual.combine (opposite first) (opposite second) := by
  cases first with
  | error failure => rfl
  | ok left =>
    cases second with
    | error failure => rfl
    | ok right => exact congrArg Except.ok (apply_dual left right).symm

theorem combine_assoc :
    connective.combine (connective.combine first second) third =
      connective.combine first (connective.combine second third) := by
  cases first with
  | error failure => rfl
  | ok left =>
    cases second with
    | error failure => rfl
    | ok middle =>
      cases third with
      | error failure => rfl
      | ok right => exact congrArg Except.ok (apply_assoc left middle right)

theorem combine_self : connective.combine first first = first := by
  cases first with
  | error failure => rfl
  | ok value => exact congrArg Except.ok (apply_self value)

end Connective

theorem opposite_opposite (result : Except Failure Bool) : opposite (opposite result) = result := by
  cases result with
  | error failure => rfl
  | ok value => exact congrArg Except.ok (Bool.not_not value)

namespace Formula

variable {connective : Connective} {first second third : Formula}

/-! ## De Morgan -/

theorem truth?_negate_eq_absorbing_iff :
    first.negate.truth? = some connective.dual.absorbing ↔
      first.truth? = some connective.absorbing := by
  rw [truth?_negate, Connective.absorbing_dual]
  cases first.truth? <;> simp [Kleene.negation]

theorem absorbs_negate_iff :
    Absorbs connective.dual first.negate second.negate ↔ Absorbs connective first second :=
  or_congr truth?_negate_eq_absorbing_iff truth?_negate_eq_absorbing_iff

theorem evaluate_negate_join (connective : Connective) (first second : Formula)
    (environment : Environment) :
    (join connective first second).negate.evaluate environment =
      (join connective.dual first.negate second.negate).evaluate environment := by
  rw [evaluate_negate_eq_opposite]
  by_cases absorbed : Absorbs connective first second
  · rw [join_of_absorbs absorbed, join_of_absorbs (absorbs_negate_iff.mpr absorbed),
      Connective.absorbing_dual]
    rfl
  · rw [evaluate_join_of_not_absorbs absorbed,
      evaluate_join_of_not_absorbs (mt absorbs_negate_iff.mp absorbed),
      evaluate_negate_eq_opposite, evaluate_negate_eq_opposite, Connective.opposite_combine]

/-! ## Associativity and idempotence -/

theorem evaluate_join_assoc (connective : Connective) (first second third : Formula)
    (environment : Environment) :
    (join connective (join connective first second) third).evaluate environment =
      (join connective first (join connective second third)).evaluate environment := by
  -- Both sides are decided exactly if one of the three operands decides.
  have leftIff : Absorbs connective (join connective first second) third ↔
      Absorbs connective first second ∨ third.truth? = some connective.absorbing :=
    or_congr truth?_join_eq_absorbing_iff Iff.rfl
  have rightIff : Absorbs connective first (join connective second third) ↔
      Absorbs connective first second ∨ third.truth? = some connective.absorbing := by
    rw [Absorbs, truth?_join_eq_absorbing_iff, Absorbs, Absorbs, or_assoc]
  by_cases absorbed : Absorbs connective first second ∨
      third.truth? = some connective.absorbing
  · rw [join_of_absorbs (leftIff.mpr absorbed), join_of_absorbs (rightIff.mpr absorbed)]
  · rcases not_or.mp absorbed with ⟨unabsorbed, thirdDifferent⟩
    rcases not_or.mp unabsorbed with ⟨_, secondDifferent⟩
    rw [evaluate_join_of_not_absorbs (mt leftIff.mp absorbed),
      evaluate_join_of_not_absorbs (mt rightIff.mp absorbed),
      evaluate_join_of_not_absorbs unabsorbed,
      evaluate_join_of_not_absorbs (not_or.mpr ⟨secondDifferent, thirdDifferent⟩),
      Connective.combine_assoc]

theorem evaluate_join_self (connective : Connective) (formula : Formula)
    (environment : Environment) :
    (join connective formula formula).evaluate environment = formula.evaluate environment := by
  by_cases absorbed : Absorbs connective formula formula
  · rw [join_of_absorbs absorbed, eq_truth_of_truth?_eq_some (or_self_iff.mp absorbed)]
  · rw [evaluate_join_of_not_absorbs absorbed, Connective.combine_self]

theorem evaluate_negate_negate (formula : Formula) (environment : Environment) :
    formula.negate.negate.evaluate environment = formula.evaluate environment := by
  rw [evaluate_negate_eq_opposite, evaluate_negate_eq_opposite, opposite_opposite]

/-! ## Comparisons -/

theorem evaluate_compare_ne (left right : Term) (environment : Environment) :
    (compare .ne left right).evaluate environment =
      (compare .eq left right).negate.evaluate environment := by
  rw [evaluate_negate_eq_opposite]
  by_cases same : left = right
  · rw [same, compare_self, compare_self]
    rfl
  · rw [compare_of_ne _ same, compare_of_ne _ same, evaluate_comparison, evaluate_comparison]
    cases left.evaluate environment with
    | error failure => rfl
    | ok leftValue =>
      cases right.evaluate environment with
      | error failure => rfl
      | ok rightValue => rfl

/-- A comparison that holds where a strict one or equality holds is their disjunction. -/
theorem evaluate_compare_weak (weak strict : Comparison) (weakReflexive : weak.reflexive = true)
    (holds : ∀ first second : Double,
      weak.holds first second = (strict.holds first second || Comparison.eq.holds first second))
    (left right : Term) (environment : Environment) :
    (compare weak left right).evaluate environment =
      (or (compare strict left right) (compare .eq left right)).evaluate environment := by
  by_cases same : left = right
  · have absorbed : Absorbs .or (compare strict left right) (compare .eq left right) := by
      rw [same, compare_self, compare_self]
      exact .inr rfl
    rw [or, join_of_absorbs absorbed, same, compare_self, weakReflexive]
    rfl
  · have unabsorbed : ¬ Absorbs .or (compare strict left right) (compare .eq left right) := by
      rw [compare_of_ne _ same, compare_of_ne _ same]
      rintro (impossible | impossible) <;> cases impossible
    rw [or, evaluate_join_of_not_absorbs unabsorbed, compare_of_ne _ same, compare_of_ne _ same,
      compare_of_ne _ same, evaluate_comparison, evaluate_comparison, evaluate_comparison]
    cases left.evaluate environment with
    | error failure => rfl
    | ok leftValue =>
      cases right.evaluate environment with
      | error failure => rfl
      | ok rightValue => exact congrArg Except.ok (holds leftValue rightValue)

/-- The laws of De Morgan, associativity, idempotence, double negation, and the
definitions of three comparisons by the other three, each between formulas with the
same value or the same failure. -/
theorem boolean_laws (first second third : Formula) (left right : Term)
    (environment : Environment) :
    (and first second).negate.evaluate environment =
        (or first.negate second.negate).evaluate environment ∧
      (or first second).negate.evaluate environment =
        (and first.negate second.negate).evaluate environment ∧
      (and (and first second) third).evaluate environment =
        (and first (and second third)).evaluate environment ∧
      (or (or first second) third).evaluate environment =
        (or first (or second third)).evaluate environment ∧
      (and first first).evaluate environment = first.evaluate environment ∧
      (or first first).evaluate environment = first.evaluate environment ∧
      first.negate.negate.evaluate environment = first.evaluate environment ∧
      (compare .ne left right).evaluate environment =
        (compare .eq left right).negate.evaluate environment ∧
      (compare .le left right).evaluate environment =
        (or (compare .lt left right) (compare .eq left right)).evaluate environment ∧
      (compare .ge left right).evaluate environment =
        (or (compare .gt left right) (compare .eq left right)).evaluate environment := by
  refine ⟨evaluate_negate_join .and first second environment,
    evaluate_negate_join .or first second environment,
    evaluate_join_assoc .and first second third environment,
    evaluate_join_assoc .or first second third environment,
    evaluate_join_self .and first environment, evaluate_join_self .or first environment,
    evaluate_negate_negate first environment, evaluate_compare_ne left right environment,
    evaluate_compare_weak .le .lt rfl Double.lessEqual_eq_or left right environment,
    evaluate_compare_weak .ge .gt rfl ?_ left right environment⟩
  intro first second
  rw [Comparison.holds, Comparison.holds, Comparison.holds, Double.lessEqual_eq_or,
    Double.equal_comm]

end Formula

end FloatLogic
