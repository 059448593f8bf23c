import FloatLogic.Proofs.Occurrence

/-!
# Paths to occurrences

A path leads from the root of a formula down to one of its parts, each step from a
node to a formula directly inside it.  The occurrences of a formula are the
comparisons at the ends of its paths, each with the binders that its path passes
(`mem_occurrences_iff`).  So a variable is free exactly if it is a leaf of a
comparison to which some path leads that passes no quantifier over the variable.

Sets of variables need not be united as values: the set of the left operand may
absorb that of the right one, and an empty set is replaced by what it absorbs.  The
sets that are gathered this way are the same.
-/

namespace FloatLogic

/-- The members of a set come in increasing order, so none comes twice. -/
theorem VarSet.increasing (set : VarSet) :
    (set.toList.map Variable.id).Pairwise (· < ·) ∧ set.toList.Nodup := by
  constructor
  · rw [List.pairwise_map]
    exact set.ordered.imp Variable.lt_def.mp
  · exact set.ordered.imp Variable.ne_of_lt

namespace Term

theorem mem_leaves_iff {v : Variable} (term : Term) :
    v ∈ term.leaves ↔ .var v ∈ term.subterms := by
  induction term with
  | constant value => simp [leaves]
  | var w => simp [leaves]
  | neg operand inductionHypothesis => simp [leaves, inductionHypothesis]
  | binary operation left right leftHypothesis rightHypothesis =>
    simp [leaves, leftHypothesis, rightHypothesis]

/-- The variables of a term, where the set of the left operand absorbs that of the
right one. -/
def gatheredVars : Term → VarSet
  | constant _ => ∅
  | var v => .singleton v
  | neg operand => operand.gatheredVars
  | binary _ left right => left.gatheredVars.absorb right.gatheredVars

theorem gatheredVars_eq_vars (term : Term) : term.gatheredVars = term.vars := by
  induction term with
  | constant value => rfl
  | var v => rfl
  | neg operand inductionHypothesis => exact inductionHypothesis
  | binary operation left right leftHypothesis rightHypothesis =>
    rw [gatheredVars, leftHypothesis, rightHypothesis, VarSet.absorb_eq_union, vars]

end Term

namespace Formula

/-! ## Gathering in place -/

/-- The free variables of a formula, where the set of the left operand absorbs that
of the right one. -/
def gatheredFreeVariables : Formula → VarSet
  | truth _ => ∅
  | comparison _ left right => left.gatheredVars.absorb right.gatheredVars
  | junction _ left right => left.gatheredFreeVariables.absorb right.gatheredFreeVariables
  | negation operand => operand.gatheredFreeVariables
  | universal binders body => body.gatheredFreeVariables \ binders

theorem gatheredFreeVariables_eq_freeVariables (formula : Formula) :
    formula.gatheredFreeVariables = formula.freeVariables := by
  induction formula with
  | truth value => rfl
  | comparison relation left right =>
    rw [gatheredFreeVariables, left.gatheredVars_eq_vars, right.gatheredVars_eq_vars,
      VarSet.absorb_eq_union, freeVariables]
  | junction connective left right leftHypothesis rightHypothesis =>
    rw [gatheredFreeVariables, leftHypothesis, rightHypothesis, VarSet.absorb_eq_union,
      freeVariables]
  | negation operand inductionHypothesis => exact inductionHypothesis
  | universal binders body inductionHypothesis =>
    rw [gatheredFreeVariables, inductionHypothesis, freeVariables]

/-! ## Paths -/

/-- The formulas directly inside a node. -/
def children : Formula → List Formula
  | truth _ => []
  | comparison _ _ _ => []
  | junction _ left right => [left, right]
  | negation operand => [operand]
  | universal _ body => [body]

/-- A path from a formula down to a part of it, with the nodes that it passes, the two
ends included. -/
inductive Path : Formula → List Formula → Formula → Prop
  | here (formula : Formula) : Path formula [formula] formula
  | down {formula child part : Formula} {nodes : List Formula} :
    child ∈ formula.children → Path child nodes part → Path formula (formula :: nodes) part

/-- The binders of a quantifier. -/
def binders? : Formula → Option VarSet
  | universal binders _ => some binders
  | _ => none

theorem binders?_eq_some_iff {formula : Formula} {binders : VarSet} :
    formula.binders? = some binders ↔ ∃ body, formula = universal binders body := by
  cases formula <;> simp [binders?, eq_comm]

/-- A path leads to every occurrence and passes its binders. -/
theorem exists_path_of_mem_occurrences (formula : Formula) {occurrence : Occurrence}
    (mem : occurrence ∈ formula.occurrences) :
    ∃ nodes, formula.Path nodes
        (comparison occurrence.relation occurrence.left occurrence.right) ∧
      nodes.filterMap binders? = occurrence.binders := by
  induction formula generalizing occurrence with
  | truth value => cases mem
  | comparison relation left right =>
    obtain rfl := List.mem_singleton.mp mem
    exact ⟨_, .here _, rfl⟩
  | junction connective left right leftHypothesis rightHypothesis =>
    rcases List.mem_append.mp mem with inLeft | inRight
    · obtain ⟨nodes, path, passed⟩ := leftHypothesis inLeft
      exact ⟨_, .down (by simp [children]) path, passed⟩
    · obtain ⟨nodes, path, passed⟩ := rightHypothesis inRight
      exact ⟨_, .down (by simp [children]) path, passed⟩
  | negation operand inductionHypothesis =>
    obtain ⟨nodes, path, passed⟩ := inductionHypothesis mem
    exact ⟨_, .down (by simp [children]) path, passed⟩
  | universal binders body inductionHypothesis =>
    obtain ⟨inner, inBody, rfl⟩ := List.mem_map.mp mem
    obtain ⟨nodes, path, passed⟩ := inductionHypothesis inBody
    exact ⟨_, .down (by simp [children]) path, congrArg (binders :: ·) passed⟩

/-- Every path to a comparison leads to an occurrence under the binders that it
passes. -/
theorem mem_occurrences_of_path {formula part : Formula} {nodes : List Formula}
    (path : formula.Path nodes part) {relation : Comparison} {left right : Term}
    (isComparison : part = comparison relation left right) :
    ⟨nodes.filterMap binders?, relation, left, right⟩ ∈ formula.occurrences := by
  induction path with
  | here formula =>
    rw [isComparison]
    exact List.mem_singleton_self _
  | @down formula child part nodes inside _ inductionHypothesis =>
    have below := inductionHypothesis isComparison
    cases formula with
    | truth value => cases inside
    | comparison otherRelation otherLeft otherRight => cases inside
    | junction connective first second =>
      have either : child = first ∨ child = second := by simpa [children] using inside
      rcases either with rfl | rfl
      · exact List.mem_append_left _ below
      · exact List.mem_append_right _ below
    | negation operand =>
      obtain rfl := List.mem_singleton.mp inside
      exact below
    | universal binders body =>
      obtain rfl := List.mem_singleton.mp inside
      exact List.mem_map_of_mem below

/-- The occurrences of a formula are the ends of the paths to its comparisons. -/
theorem mem_occurrences_iff (formula : Formula) {occurrence : Occurrence} :
    occurrence ∈ formula.occurrences ↔
      ∃ nodes, formula.Path nodes
          (comparison occurrence.relation occurrence.left occurrence.right) ∧
        nodes.filterMap binders? = occurrence.binders := by
  constructor
  · exact formula.exists_path_of_mem_occurrences
  · rintro ⟨nodes, path, passed⟩
    have mem := mem_occurrences_of_path path rfl
    rw [passed] at mem
    exact mem

/-- An occurrence at the end of a path binds a variable exactly if the path passes a
quantifier that does. -/
theorem binds_iff_of_passed {occurrence : Occurrence} {nodes : List Formula} {v : Variable}
    (passed : nodes.filterMap binders? = occurrence.binders) :
    occurrence.Binds v ↔ ∃ binders body, universal binders body ∈ nodes ∧ v ∈ binders := by
  simp only [Occurrence.Binds, ← passed, List.mem_filterMap, binders?_eq_some_iff]
  constructor
  · rintro ⟨binders, ⟨node, onPath, body, rfl⟩, bound⟩
    exact ⟨binders, body, onPath, bound⟩
  · rintro ⟨binders, body, onPath, bound⟩
    exact ⟨binders, ⟨_, onPath, body, rfl⟩, bound⟩

/-! ## Free variables -/

/-- A variable occurs free exactly if some path leads to a comparison that mentions it
and passes no quantifier that binds it. -/
theorem occursFree_iff (formula : Formula) {v : Variable} :
    formula.OccursFree v ↔
      ∃ nodes relation left right, formula.Path nodes (comparison relation left right) ∧
        (v ∈ left.leaves ∨ v ∈ right.leaves) ∧
        ∀ binders body, universal binders body ∈ nodes → v ∉ binders := by
  simp only [Term.mem_leaves_iff]
  constructor
  · rintro ⟨occurrence, mem, mentioned, unbound⟩
    obtain ⟨nodes, path, passed⟩ := formula.mem_occurrences_iff.mp mem
    rw [binds_iff_of_passed passed] at unbound
    refine ⟨nodes, _, _, _, path, mentioned, fun binders body onPath bound => ?_⟩
    exact unbound ⟨binders, body, onPath, bound⟩
  · rintro ⟨nodes, relation, left, right, path, mentioned, unbound⟩
    refine ⟨_, mem_occurrences_of_path path rfl, mentioned, ?_⟩
    rw [binds_iff_of_passed rfl]
    rintro ⟨binders, body, onPath, bound⟩
    exact unbound binders body onPath bound

/-- A variable is free in a formula exactly if it is a leaf of an operand of some
comparison and no quantifier on the path from the root to that comparison binds it; the
variables of a term are its leaves.  The sets list their members in increasing order
without repetition, and gathering them in place gives the same sets. -/
theorem freeVariables_are_unbound_leaves :
    (∀ (formula : Formula) (v : Variable),
      v ∈ formula.freeVariables ↔
        ∃ nodes relation left right, formula.Path nodes (comparison relation left right) ∧
          (v ∈ left.leaves ∨ v ∈ right.leaves) ∧
          ∀ binders body, universal binders body ∈ nodes → v ∉ binders) ∧
    (∀ (term : Term) (v : Variable), v ∈ term.vars ↔ v ∈ term.leaves) ∧
    (∀ formula : Formula,
      (formula.freeVariables.toList.map Variable.id).Pairwise (· < ·) ∧
        formula.freeVariables.toList.Nodup ∧
        formula.gatheredFreeVariables = formula.freeVariables) ∧
    ∀ term : Term,
      (term.vars.toList.map Variable.id).Pairwise (· < ·) ∧ term.vars.toList.Nodup ∧
        term.gatheredVars = term.vars := by
  refine ⟨fun formula v => ?_, fun term v => ?_, fun formula => ?_, fun term => ?_⟩
  · rw [mem_freeVariables_iff, occursFree_iff]
  · rw [Term.mem_vars_iff, Term.mem_leaves_iff]
  · obtain ⟨increasing, distinct⟩ := formula.freeVariables.increasing
    exact ⟨increasing, distinct, formula.gatheredFreeVariables_eq_freeVariables⟩
  · obtain ⟨increasing, distinct⟩ := term.vars.increasing
    exact ⟨increasing, distinct, term.gatheredVars_eq_vars⟩

end Formula

end FloatLogic
