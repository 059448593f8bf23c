import FloatLogic.Environment
import FloatLogic.VarSet.Lemmas

/-!
# Bindings of environments

Every operation on environments is described by the values it binds, and an
environment is determined by them (`Environment.ext`).
-/

namespace FloatLogic.Environment

/-! ## Ordered lists of bindings -/

/-- In an ordered list the value of a variable is that of its only binding. -/
theorem valueIn_eq_some_iff {v : Variable} {value : Double} {bindings : List (Variable × Double)}
    (ordered : bindings.Pairwise (·.1 < ·.1)) :
    valueIn v bindings = some value ↔ (v, value) ∈ bindings := by
  induction bindings with
  | nil => simp [valueIn]
  | cons first rest inductionHypothesis =>
    obtain ⟨bound, old⟩ := first
    obtain ⟨boundBelow, restOrdered⟩ := List.pairwise_cons.mp ordered
    simp only [valueIn]
    split
    · rename_i same
      subst same
      simp only [Option.some.injEq, List.mem_cons, Prod.mk.injEq, true_and]
      constructor
      · exact fun equal => Or.inl equal.symm
      · rintro (equal | mem)
        · exact equal.symm
        · exact absurd (boundBelow _ mem) (Variable.lt_irrefl bound)
    · rename_i different
      rw [inductionHypothesis restOrdered]
      simp [Ne.symm different]

theorem valueIn_insertOrdered {v w : Variable} {value : Double}
    {bindings : List (Variable × Double)} (ordered : bindings.Pairwise (·.1 < ·.1)) :
    valueIn w (insertOrdered v value bindings) =
      if v = w then some value else valueIn w bindings := by
  induction bindings with
  | nil => simp [insertOrdered, valueIn]
  | cons first rest inductionHypothesis =>
    obtain ⟨bound, old⟩ := first
    obtain ⟨boundBelow, restOrdered⟩ := List.pairwise_cons.mp ordered
    simp only [insertOrdered]
    split
    · simp [valueIn]
    · split
      · rename_i above
        simp only [valueIn, inductionHypothesis restOrdered]
        split
        · rename_i same
          subst same
          rw [if_neg]
          rintro rfl
          exact Variable.lt_irrefl _ above
        · rfl
      · rename_i notBelow notAbove
        rw [Variable.eq_of_not_lt notBelow notAbove]
        simp only [valueIn]
        split <;> rfl

/-! ## Values of the operations -/

variable {v w : Variable} {value : Double} {environment : Environment}

@[simp]
theorem get?_empty : empty.get? v = none := rfl

@[simp]
theorem get?_insert :
    (environment.insert v value).get? w = if v = w then some value else environment.get? w :=
  valueIn_insertOrdered environment.ordered

theorem get?_eq_some_iff : environment.get? v = some value ↔ (v, value) ∈ environment.toList :=
  valueIn_eq_some_iff environment.ordered

@[simp]
theorem mem_domain : v ∈ environment.domain ↔ environment.contains v = true := by
  rw [contains, Option.isSome_iff_exists]
  simp [VarSet.mem_def, domain, get?_eq_some_iff]

theorem bindsAll_eq_true_iff {set : VarSet} :
    environment.bindsAll set = true ↔ ∀ v ∈ set, environment.contains v = true := by
  simp [bindsAll, VarSet.mem_def]

/-! ## Extensionality -/

/-- Two ordered lists of bindings with the same members are the same list. -/
theorem ordered_ext {left right : List (Variable × Double)}
    (leftOrdered : left.Pairwise (·.1 < ·.1)) (rightOrdered : right.Pairwise (·.1 < ·.1))
    (same : ∀ v, valueIn v left = valueIn v right) : left = right := by
  have members (binding : Variable × Double) : binding ∈ left ↔ binding ∈ right := by
    rw [← valueIn_eq_some_iff leftOrdered, ← valueIn_eq_some_iff rightOrdered, same]
  have distinct {bindings : List (Variable × Double)}
      (ordered : bindings.Pairwise (·.1 < ·.1)) : bindings.Nodup :=
    ordered.imp fun below same => Variable.ne_of_lt below (congrArg Prod.fst same)
  refine List.Perm.eq_of_pairwise ?_ leftOrdered rightOrdered
    ((List.perm_ext_iff_of_nodup (distinct leftOrdered) (distinct rightOrdered)).mpr members)
  intro first second _ _ below above
  exact absurd (Variable.lt_trans below above) (Variable.lt_irrefl _)

/-- An environment is determined by the values it binds. -/
theorem ext {left right : Environment} (same : ∀ v, left.get? v = right.get? v) :
    left = right := by
  obtain ⟨leftList, leftOrdered⟩ := left
  obtain ⟨rightList, rightOrdered⟩ := right
  have : leftList = rightList := ordered_ext leftOrdered rightOrdered same
  subst this
  rfl

end FloatLogic.Environment
