import FloatLogic.VarSet

/-!
# Membership in sets of variables

Every operation on sets is described by its members, and a set is determined by
its members (`VarSet.ext`).  In particular the two ways to unite sets agree.
-/

namespace FloatLogic.VarSet

/-! ## Extensionality -/

/-- Two strictly increasing lists with the same members are the same list. -/
theorem ordered_ext {left right : List Variable} (leftOrdered : left.Pairwise (· < ·))
    (rightOrdered : right.Pairwise (· < ·)) (same : ∀ v, v ∈ left ↔ v ∈ right) :
    left = right := by
  have distinct {members : List Variable} (ordered : members.Pairwise (· < ·)) :
      members.Nodup := ordered.imp Variable.ne_of_lt
  refine List.Perm.eq_of_pairwise ?_ leftOrdered rightOrdered
    ((List.perm_ext_iff_of_nodup (distinct leftOrdered) (distinct rightOrdered)).mpr same)
  intro first second _ _ below above
  exact absurd (Variable.lt_trans below above) (Variable.lt_irrefl first)

/-- A set is determined by its members. -/
theorem ext {left right : VarSet} (same : ∀ v, v ∈ left ↔ v ∈ right) : left = right := by
  obtain ⟨leftList, leftOrdered⟩ := left
  obtain ⟨rightList, rightOrdered⟩ := right
  have : leftList = rightList := ordered_ext leftOrdered rightOrdered same
  subst this
  rfl

/-! ## Members of the operations -/

variable {v w : Variable} {left right set : VarSet} {members : List Variable}

theorem contains_eq_true_iff : set.contains v = true ↔ v ∈ set := by
  simp [contains]

@[simp]
theorem notMem_empty : v ∉ (∅ : VarSet) := List.not_mem_nil

@[simp]
theorem notMem_emptySet : v ∉ VarSet.empty := List.not_mem_nil

@[simp]
theorem mem_insert : v ∈ set.insert w ↔ v = w ∨ v ∈ set := mem_insertOrdered

@[simp]
theorem mem_insertAll : v ∈ set.insertAll members ↔ v ∈ members ∨ v ∈ set := by
  induction members generalizing set with
  | nil => simp [insertAll]
  | cons member rest inductionHypothesis =>
    have step : set.insertAll (member :: rest) = (set.insert member).insertAll rest := rfl
    rw [step, inductionHypothesis, mem_insert, List.mem_cons]
    constructor
    · rintro (found | found | found) <;> simp [found]
    · rintro ((found | found) | found) <;> simp [found]

@[simp]
theorem mem_ofList : v ∈ ofList members ↔ v ∈ members := by simp [ofList]

@[simp]
theorem mem_singleton : v ∈ singleton w ↔ v = w := by simp [singleton]

@[simp]
theorem mem_filter {condition : Variable → Bool} :
    v ∈ set.filter condition ↔ v ∈ set ∧ condition v = true := List.mem_filter

@[simp]
theorem mem_union : v ∈ left ∪ right ↔ v ∈ left ∨ v ∈ right := by
  obtain ⟨members, ordered⟩ := left
  show v ∈ members.foldr (fun member set => set.insert member) right ↔ v ∈ members ∨ v ∈ right
  clear ordered
  induction members with
  | nil => simp
  | cons member rest inductionHypothesis => simp [inductionHypothesis, or_assoc]

/-- What holds of the members of a union holds of those of both sets. -/
theorem forall_mem_union {condition : Variable → Prop} :
    (∀ v ∈ left ∪ right, condition v) ↔
      (∀ v ∈ left, condition v) ∧ ∀ v ∈ right, condition v := by
  simp only [mem_union, or_imp, forall_and]

@[simp]
theorem mem_diff : v ∈ left \ right ↔ v ∈ left ∧ v ∉ right := by
  show v ∈ left.filter _ ↔ _
  simp [contains]

theorem isEmpty_eq_true_iff : set.isEmpty = true ↔ set = ∅ := by
  constructor
  · intro nothing
    refine ext fun v => ?_
    rw [mem_def, List.isEmpty_iff.mp nothing]
    simp
  · rintro rfl
    rfl

@[simp]
theorem mem_absorb : v ∈ left.absorb right ↔ v ∈ left ∨ v ∈ right := by
  simp only [absorb]
  split
  · rename_i nothing
    rw [isEmpty_eq_true_iff.mp nothing]
    simp
  · rw [mem_insertAll, ← mem_def, or_comm]

theorem isSubset_eq_true_iff : left.isSubset right = true ↔ ∀ v ∈ left, v ∈ right := by
  simp [isSubset, contains, mem_def]

/-! ## Agreement of the implementations -/

theorem absorb_eq_union : left.absorb right = left ∪ right := ext fun v => by simp

end FloatLogic.VarSet
