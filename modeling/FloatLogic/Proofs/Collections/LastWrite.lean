import FloatLogic.Collect
import FloatLogic.Proofs.Evaluation.Success
import FloatLogic.Proofs.Occurrence.Path
import Mathlib.Data.List.Induction
import Mathlib.Data.List.TFAE
import Mathlib.Tactic.TFAE

/-!
# The last write wins

There are four ways to fill an environment from a list of bindings: collect the list,
convert an array, extend the empty environment, and insert the bindings one by one.
All four bind a variable to its value in the last binding for it.  Inserting is
described by induction from the end of the list, where the last binding wins
(`get?_insertAll`); collecting sorts the list first and is described by what
`filter_collected` says of the bindings for one variable (`get?_collect`).
-/

namespace FloatLogic

/-! ## The last value in a list -/

/-- The value of a variable in the last binding for it. -/
def lastValue? (v : Variable) (bindings : List (Variable × Double)) : Option Double :=
  (bindings.filter fun binding => binding.1 = v).getLast?.map Prod.snd

section

variable {v : Variable} {value : Double} {bindings : List (Variable × Double)}

theorem lastValue?_append_singleton {binding : Variable × Double} :
    lastValue? v (bindings ++ [binding]) =
      if binding.1 = v then some binding.2 else lastValue? v bindings := by
  by_cases same : binding.1 = v
  · simp [lastValue?, same]
  · simp [lastValue?, same]

theorem lastValue?_eq_none_iff :
    lastValue? v bindings = none ↔ ∀ binding ∈ bindings, binding.1 ≠ v := by
  simp [lastValue?]

/-- The last value stands in a binding with no later binding for the variable. -/
theorem lastValue?_eq_some_iff :
    lastValue? v bindings = some value ↔
      ∃ before after, bindings = before ++ (v, value) :: after ∧
        ∀ binding ∈ after, binding.1 ≠ v := by
  have found (last : Variable × Double) :
      bindings.reverse.find? (fun binding => binding.1 = v) = some last ↔
        last.1 = v ∧ ∃ before after, bindings = before ++ last :: after ∧
          ∀ binding ∈ after, binding.1 ≠ v := by
    rw [List.find?_eq_some_iff_append, decide_eq_true_eq]
    refine and_congr_right fun _ => ⟨?_, ?_⟩
    · rintro ⟨later, earlier, split, absent⟩
      exact ⟨earlier.reverse, later.reverse, by simpa using congrArg List.reverse split,
        by simpa using absent⟩
    · rintro ⟨before, after, split, absent⟩
      exact ⟨after.reverse, before.reverse, by simp [split], by simpa using absent⟩
  rw [lastValue?, List.getLast?_filter, Option.map_eq_some_iff]
  constructor
  · rintro ⟨last, isLast, rfl⟩
    obtain ⟨rfl, split⟩ := (found last).mp isLast
    exact split
  · intro split
    exact ⟨(v, value), (found _).mpr ⟨rfl, split⟩, rfl⟩

end

namespace Environment

variable {v : Variable} {value : Double} {environment : Environment}
  {bindings : List (Variable × Double)}

/-! ## Filling an environment -/

/-- Insert bindings one by one, each replacing an older binding for its variable. -/
def insertEach (environment : Environment) (bindings : List (Variable × Double)) : Environment :=
  bindings.foldl (fun environment binding => (environment.replace binding.1 binding.2).2)
    environment

theorem insertAll_eq_insertEach :
    environment.insertAll bindings = environment.insertEach bindings := rfl

theorem insertAll_append_singleton {binding : Variable × Double} :
    environment.insertAll (bindings ++ [binding]) =
      (environment.insertAll bindings).insert binding.1 binding.2 := by
  rw [insertAll, List.foldl_append]
  rfl

/-- Inserted bindings win over those that were there, the last one over the others. -/
theorem get?_insertAll :
    (environment.insertAll bindings).get? v = (lastValue? v bindings).or (environment.get? v) := by
  -- The last binding decides, so the induction takes bindings away at the end.
  induction bindings using List.reverseRecOn with
  | nil => rfl
  | append_singleton earlier last inductionHypothesis =>
    rw [insertAll_append_singleton, get?_insert, lastValue?_append_singleton]
    by_cases same : last.1 = v
    · rw [if_pos same, if_pos same, Option.some_or]
    · rw [if_neg same, if_neg same, inductionHypothesis]

/-- Reading takes the first binding for a variable. -/
theorem valueIn_eq_head?_filter (bindings : List (Variable × Double)) :
    valueIn v bindings =
      (bindings.filter fun binding => binding.1 = v).head?.map Prod.snd := by
  induction bindings with
  | nil => rfl
  | cons binding rest inductionHypothesis =>
    by_cases same : binding.1 = v
    · simp [valueIn, same]
    · simp [valueIn, same, inductionHypothesis]

theorem get?_collect : (collect bindings).get? v = lastValue? v bindings := by
  have kept : ((collected Prod.fst bindings).filter fun binding => binding.1 = v) =
      (bindings.filter fun binding => binding.1 = v).getLast?.toList := filter_collected bindings v
  rw [get?, collect, valueIn_eq_head?_filter, kept, lastValue?, Option.head?_toList]

theorem insertAll_empty_eq_collect : empty.insertAll bindings = collect bindings :=
  ext fun v => by rw [get?_insertAll, get?_collect, get?_empty, Option.or_none]

/-- The bound variables are what the keys are collected to. -/
theorem domain_eq_collect :
    environment.domain = VarSet.collect (environment.toList.map Prod.fst) :=
  VarSet.ext fun v => by rw [VarSet.mem_collect, VarSet.mem_def, domain]

/-! ## Asking whether variables are bound -/

/-- Five ways to ask whether every member of a set is bound. -/
theorem bindsAll_tfae (environment : Environment) (set : VarSet) :
    [environment.bindsAll set = true,
      set.isSubset environment.domain = true,
      (set \ environment.domain).isEmpty = true,
      (set.difference environment.domain).isEmpty = true,
      ∀ v ∈ set, ∃ value, environment.lookup v = .ok value].TFAE := by
  have nothingLeft : (set \ environment.domain).isEmpty = true ↔
      ∀ v ∈ set, environment.contains v = true := by
    rw [VarSet.isEmpty_eq_true_iff]
    constructor
    · intro nothing v mem
      by_contra unbound
      have left : v ∈ set \ environment.domain :=
        VarSet.mem_diff.mpr ⟨mem, fun bound => unbound (mem_domain.mp bound)⟩
      rw [nothing] at left
      exact VarSet.notMem_empty left
    · intro bound
      refine VarSet.ext fun v => iff_of_false (fun left => ?_) VarSet.notMem_empty
      obtain ⟨mem, outside⟩ := VarSet.mem_diff.mp left
      exact outside (mem_domain.mpr (bound v mem))
  tfae_have 1 ↔ 2 := by
    rw [bindsAll_eq_true_iff, VarSet.isSubset_eq_true_iff]
    simp only [mem_domain]
  tfae_have 1 ↔ 3 := bindsAll_eq_true_iff.trans nothingLeft.symm
  tfae_have 3 ↔ 4 := by rw [VarSet.difference_eq_diff]
  tfae_have 1 ↔ 5 := by
    rw [bindsAll_eq_true_iff]
    simp only [exists_lookup_eq_ok_iff]
  tfae_finish

/-! ## Environments as finite maps -/

/-- However an environment is filled from a list, a variable is bound to its value in
the last binding for it; inserting gives back the old binding and keeps the others; the
bindings are listed in the order of the variables; and the tests for bound variables
agree. -/
theorem last_write_wins :
    (∀ bindings : List (Variable × Double),
      ofArray bindings.toArray = collect bindings ∧ empty.insertAll bindings = collect bindings ∧
      empty.insertEach bindings = collect bindings ∧
      ∀ v, (∀ value, (collect bindings).get? v = some value ↔
          ∃ before after, bindings = before ++ (v, value) :: after ∧
            ∀ binding ∈ after, binding.1 ≠ v) ∧
        ((collect bindings).get? v = none ↔ ∀ binding ∈ bindings, binding.1 ≠ v)) ∧
    (∀ (environment : Environment) (v : Variable) (value : Double),
      (environment.replace v value).1 = environment.get? v ∧
      (environment.replace v value).2.get? v = some value ∧
      ∀ w, w ≠ v → (environment.replace v value).2.get? w = environment.get? w) ∧
    (∀ (environment : Environment) (bindings : List (Variable × Double)),
      environment.insertAll bindings = environment.insertEach bindings ∧
      ∀ v, (environment.insertAll bindings).get? v =
        ((collect bindings).get? v).or (environment.get? v)) ∧
    (∀ environment : Environment,
      (environment.toList.map fun binding => binding.1.id).Pairwise (· < ·) ∧
      environment.toList.length = environment.size ∧
      (∀ v value, (v, value) ∈ environment.toList ↔ environment.get? v = some value) ∧
      environment.domain = .collect (environment.toList.map Prod.fst)) ∧
    ∀ (environment : Environment) (set : VarSet),
      [environment.bindsAll set = true,
        set.isSubset environment.domain = true,
        (set \ environment.domain).isEmpty = true,
        (set.difference environment.domain).isEmpty = true,
        ∀ v ∈ set, ∃ value, environment.lookup v = .ok value].TFAE := by
  refine ⟨fun bindings => ⟨rfl, insertAll_empty_eq_collect, ?_, fun v => ⟨fun value => ?_, ?_⟩⟩,
    fun environment v value => ⟨rfl, ?_, fun w other => ?_⟩,
    fun environment bindings => ⟨insertAll_eq_insertEach, fun v => ?_⟩,
    fun environment => ⟨?_, rfl, fun v value => get?_eq_some_iff.symm, domain_eq_collect⟩,
    bindsAll_tfae⟩
  · rw [← insertAll_eq_insertEach, insertAll_empty_eq_collect]
  · rw [get?_collect, lastValue?_eq_some_iff]
  · rw [get?_collect, lastValue?_eq_none_iff]
  · rw [replace, get?_insert, if_pos rfl]
  · rw [replace, get?_insert, if_neg (Ne.symm other)]
  · rw [get?_insertAll, get?_collect]
  · rw [List.pairwise_map]
    exact environment.ordered.imp Variable.lt_def.mp

/-- Three bindings, two of them for one variable, and then a fourth. -/
theorem last_write_wins_repeated :
    let bindings : List (Variable × Double) := [(⟨1⟩, ⟨7⟩), (⟨0⟩, ⟨5⟩), (⟨1⟩, ⟨3⟩)]
    (empty.insertAll bindings).get? ⟨1⟩ = some ⟨3⟩ ∧
      (ofArray bindings.toArray).get? ⟨2⟩ = none ∧
      (⟨0⟩ : Variable) ≠ ⟨1⟩ ∧
      ((collect bindings).replace ⟨1⟩ ⟨9⟩).2.get? ⟨0⟩ = some ⟨5⟩ := by
  intro bindings
  obtain ⟨filled, inserted, _⟩ := last_write_wins
  obtain ⟨converted, extended, _, bound⟩ := filled bindings
  have different : (⟨0⟩ : Variable) ≠ ⟨1⟩ := by decide
  have last : (collect bindings).get? ⟨1⟩ = some ⟨3⟩ :=
    ((bound ⟨1⟩).1 ⟨3⟩).mpr ⟨[(⟨1⟩, ⟨7⟩), (⟨0⟩, ⟨5⟩)], [], rfl, by simp⟩
  have only : (collect bindings).get? ⟨0⟩ = some ⟨5⟩ :=
    ((bound ⟨0⟩).1 ⟨5⟩).mpr ⟨[(⟨1⟩, ⟨7⟩)], [(⟨1⟩, ⟨3⟩)], rfl, by simp⟩
  have absent : (collect bindings).get? ⟨2⟩ = none := (bound ⟨2⟩).2.mpr (by decide)
  refine ⟨?_, ?_, different, ?_⟩
  · rw [extended, last]
  · rw [converted, absent]
  · rw [(inserted (collect bindings) ⟨1⟩ ⟨9⟩).2.2 ⟨0⟩ different, only]

end Environment

end FloatLogic
