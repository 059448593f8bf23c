import FloatLogic.Environment.Lemmas

/-!
# Collecting

A set or an environment is collected from a list in two steps: the entries are
sorted by their variables, where entries for one variable keep the order that they
have in the list, and of neighbours for one variable the last one stays.  What is
collected for a variable is the last entry for it in the list (`filter_collected`).
-/

namespace FloatLogic

section

variable {α : Type} (key : α → Variable)

/-- Keep the last of neighbours with one key. -/
def lastOfRuns : List α → List α
  | [] => []
  | [only] => [only]
  | first :: second :: rest =>
    if key first = key second then lastOfRuns (second :: rest)
    else first :: lastOfRuns (second :: rest)

/-- Whether an entry may stand before another one in a sorted list. -/
def keyAtMost (first second : α) : Bool := decide ((key first).id ≤ (key second).id)

/-- The last entry for each key, in the order of the keys. -/
def collected (entries : List α) : List α := lastOfRuns key (entries.mergeSort (keyAtMost key))

variable {key} {entries : List α} {v : Variable}

/-! ## Sorting -/

theorem keyAtMost_trans (first second third : α) (below : keyAtMost key first second = true)
    (above : keyAtMost key second third = true) : keyAtMost key first third = true :=
  decide_eq_true (Nat.le_trans (of_decide_eq_true below) (of_decide_eq_true above))

theorem keyAtMost_total (first second : α) :
    (keyAtMost key first second || keyAtMost key second first) = true := by
  simpa [keyAtMost] using Nat.le_total _ _

theorem pairwise_mergeSort_keyAtMost (entries : List α) :
    (entries.mergeSort (keyAtMost key)).Pairwise fun first second =>
      (key first).id ≤ (key second).id :=
  (List.pairwise_mergeSort keyAtMost_trans keyAtMost_total entries).imp of_decide_eq_true

/-- Sorting keeps the entries with one key and their order. -/
theorem filter_mergeSort_keyAtMost (entries : List α) (v : Variable) :
    (entries.mergeSort (keyAtMost key)).filter (fun entry => key entry = v) =
      entries.filter fun entry => key entry = v := by
  have oneKey : (entries.filter fun entry => key entry = v).Pairwise fun first second =>
      keyAtMost key first second = true := by
    refine List.pairwise_filter.mpr (List.pairwise_of_forall fun first second => ?_)
    simp only [decide_eq_true_eq]
    intro firstKey secondKey
    simp [keyAtMost, firstKey, secondKey]
  have kept := List.sublist_mergeSort keyAtMost_trans keyAtMost_total oneKey List.filter_sublist
  have filtered := kept.filter fun entry => decide (key entry = v)
  simp only [List.filter_filter, Bool.and_self] at filtered
  have sameLength := ((List.mergeSort_perm entries (keyAtMost key)).filter
    fun entry => decide (key entry = v)).length_eq
  exact (filtered.eq_of_length sameLength.symm).symm

/-! ## Runs -/

theorem mem_of_mem_lastOfRuns {entry : α} (mem : entry ∈ lastOfRuns key entries) :
    entry ∈ entries := by
  fun_induction lastOfRuns key entries with
  | case1 => exact mem
  | case2 only => exact mem
  | case3 first second rest _ inductionHypothesis =>
    exact List.mem_cons_of_mem _ (inductionHypothesis mem)
  | case4 first second rest _ inductionHypothesis =>
    rcases List.mem_cons.mp mem with rfl | later
    · exact List.mem_cons_self
    · exact List.mem_cons_of_mem _ (inductionHypothesis later)

/-- In a sorted list every later run has a greater key. -/
theorem lt_of_mem_of_key_ne {first second : α} {rest : List α}
    (sorted : (first :: second :: rest).Pairwise fun first second =>
      (key first).id ≤ (key second).id)
    (different : key first ≠ key second) {entry : α} (mem : entry ∈ second :: rest) :
    key first < key entry := by
  obtain ⟨atMost, restSorted⟩ := List.pairwise_cons.mp sorted
  have below : key first < key second := Decidable.byContradiction fun notBelow =>
    different (Variable.eq_of_not_lt notBelow
      (Nat.not_lt.mpr (atMost second List.mem_cons_self)))
  rcases List.mem_cons.mp mem with rfl | later
  · exact below
  · exact Nat.lt_of_lt_of_le below ((List.pairwise_cons.mp restSorted).1 entry later)

theorem pairwise_lastOfRuns
    (sorted : entries.Pairwise fun first second => (key first).id ≤ (key second).id) :
    (lastOfRuns key entries).Pairwise fun first second => key first < key second := by
  fun_induction lastOfRuns key entries with
  | case1 => exact List.Pairwise.nil
  | case2 only => exact List.pairwise_singleton _ _
  | case3 first second rest _ inductionHypothesis =>
    exact inductionHypothesis (List.pairwise_cons.mp sorted).2
  | case4 first second rest different inductionHypothesis =>
    refine List.pairwise_cons.mpr ⟨fun entry mem => ?_,
      inductionHypothesis (List.pairwise_cons.mp sorted).2⟩
    exact lt_of_mem_of_key_ne sorted different (mem_of_mem_lastOfRuns mem)

/-- Of the entries with one key in a sorted list the last one stays. -/
theorem filter_lastOfRuns
    (sorted : entries.Pairwise fun first second => (key first).id ≤ (key second).id) :
    (lastOfRuns key entries).filter (fun entry => key entry = v) =
      (entries.filter fun entry => key entry = v).getLast?.toList := by
  fun_induction lastOfRuns key entries with
  | case1 => rfl
  | case2 only =>
    by_cases same : key only = v <;> simp [same]
  | case3 first second rest same inductionHypothesis =>
    rw [inductionHypothesis (List.pairwise_cons.mp sorted).2]
    by_cases here : key second = v
    · simp [same, here]
    · simp [same, here]
  | case4 first second rest different inductionHypothesis =>
    have later := inductionHypothesis (List.pairwise_cons.mp sorted).2
    by_cases here : key first = v
    · have none : (second :: rest).filter (fun entry => key entry = v) = [] := by
        refine List.filter_eq_nil_iff.mpr fun entry mem => ?_
        have above := lt_of_mem_of_key_ne sorted different mem
        rw [here] at above
        simpa using (Variable.ne_of_lt above).symm
      have keep (entries : List α) : (first :: entries).filter (fun entry => key entry = v) =
          first :: entries.filter fun entry => key entry = v :=
        List.filter_cons_of_pos (by simpa using here)
      rw [keep, keep, later, none]
      rfl
    · have skip (entries : List α) : (first :: entries).filter (fun entry => key entry = v) =
          entries.filter fun entry => key entry = v :=
        List.filter_cons_of_neg (by simpa using here)
      rw [skip, skip, later]

/-- What is collected for a key is the last entry with it. -/
theorem filter_collected (entries : List α) (v : Variable) :
    (collected key entries).filter (fun entry => key entry = v) =
      (entries.filter fun entry => key entry = v).getLast?.toList := by
  rw [collected, filter_lastOfRuns (pairwise_mergeSort_keyAtMost entries),
    filter_mergeSort_keyAtMost]

theorem pairwise_collected (entries : List α) :
    (collected key entries).Pairwise fun first second => key first < key second :=
  pairwise_lastOfRuns (pairwise_mergeSort_keyAtMost entries)

/-- Every key keeps an entry. -/
theorem exists_mem_lastOfRuns_iff :
    (∃ entry ∈ lastOfRuns key entries, key entry = v) ↔ ∃ entry ∈ entries, key entry = v := by
  fun_induction lastOfRuns key entries with
  | case1 => rfl
  | case2 only => rfl
  | case3 first second rest same inductionHypothesis =>
    rw [inductionHypothesis]
    simp [same]
  | case4 first second rest _ inductionHypothesis =>
    simpa using or_congr_right (a := key first = v) inductionHypothesis

/-- The keys that are collected are those of the list. -/
theorem exists_mem_collected_iff :
    (∃ entry ∈ collected key entries, key entry = v) ↔ ∃ entry ∈ entries, key entry = v := by
  simp only [collected, exists_mem_lastOfRuns_iff, List.mem_mergeSort]

end

/-! ## Sets and environments -/

namespace VarSet

/-- The set of the listed variables, in any order and with any repetitions. -/
def collect (members : List Variable) : VarSet := ⟨collected id members, pairwise_collected members⟩

/-- The members of the left set that are not in the right one, collected into a new
set. -/
def difference (left right : VarSet) : VarSet :=
  collect (left.toList.filter fun member => !right.contains member)

/-- The members of both sets, merged in their order, a common one once, and collected
into a new set. -/
def merge (left right : VarSet) : VarSet :=
  collect (lastOfRuns id (left.toList.merge right.toList (keyAtMost id)))

variable {v : Variable} {members : List Variable} {left right : VarSet}

@[simp]
theorem mem_collect : v ∈ collect members ↔ v ∈ members := by
  have same : (∃ entry ∈ collected id members, id entry = v) ↔
      ∃ entry ∈ members, id entry = v := exists_mem_collected_iff
  simpa [mem_def, collect] using same

@[simp]
theorem mem_difference : v ∈ left.difference right ↔ v ∈ left ∧ v ∉ right := by
  rw [difference, mem_collect, List.mem_filter, ← mem_def]
  simp [contains]

@[simp]
theorem mem_merge : v ∈ left.merge right ↔ v ∈ left ∨ v ∈ right := by
  have same : (∃ entry ∈ lastOfRuns id (left.toList.merge right.toList (keyAtMost id)),
        id entry = v) ↔
      ∃ entry ∈ left.toList.merge right.toList (keyAtMost id), id entry = v :=
    exists_mem_lastOfRuns_iff
  rw [merge, mem_collect]
  simpa [mem_def, List.mem_merge] using same

theorem difference_eq_diff : left.difference right = left \ right := ext fun v => by simp

theorem merge_eq_absorb : left.merge right = left.absorb right := ext fun v => by simp

end VarSet

namespace Environment

/-- The environment of the listed bindings; of several bindings for one variable the
last one is kept. -/
def collect (bindings : List (Variable × Double)) : Environment :=
  ⟨collected Prod.fst bindings, pairwise_collected bindings⟩

/-- The environment of the bindings in an array. -/
def ofArray (bindings : Array (Variable × Double)) : Environment := collect bindings.toList

end Environment

end FloatLogic
