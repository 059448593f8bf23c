import FloatLogic.Proofs.Folding.Canonical
import FloatLogic.Proofs.Memory.Calls

/-!
# What can be constructed

Runs of constructor calls build the canonical formulas and no others.  One call
preserves that everything held is canonical, and so does a run.  Conversely the calls
for the nodes of a tree, operands before nodes, build the tree again; a canonical
formula is what its own calls build.
-/

namespace FloatLogic

/-! ## Runs build canonical formulas -/

namespace Trees

variable {trees next : Trees} {call : Call}

/-- All terms and formulas that are held are canonical. -/
structure Canonical (trees : Trees) : Prop where
  terms : ∀ term ∈ trees.terms, term.NegativeZeroFree
  formulas : ∀ formula ∈ trees.formulas, formula.Canonical

theorem Canonical.holdTerm (canonical : trees.Canonical) {term : Term}
    (free : term.NegativeZeroFree) :
    Canonical { trees with terms := term :: trees.terms } where
  terms := List.forall_mem_cons.mpr ⟨free, canonical.terms⟩
  formulas := canonical.formulas

theorem Canonical.holdFormula (canonical : trees.Canonical) {formula : Formula}
    (isCanonical : formula.Canonical) :
    Canonical { trees with formulas := formula :: trees.formulas } where
  terms := canonical.terms
  formulas := List.forall_mem_cons.mpr ⟨isCanonical, canonical.formulas⟩

/-- A call on canonical operands gives a canonical result. -/
theorem Canonical.perform (canonical : trees.Canonical)
    (performed : trees.perform call = some next) : next.Canonical := by
  cases call with
  | constant value =>
    cases performed
    exact canonical.holdTerm (Term.negativeZeroFree_ofDouble value)
  | var v =>
    cases performed
    exact canonical.holdTerm Term.negativeZeroFree_var
  | neg operand =>
    rcases Memory.exists_mem_of_lookup performed with ⟨term, held, rfl⟩
    exact canonical.holdTerm (Term.negativeZeroFree_neg_iff.mpr (canonical.terms term held))
  | binary operation left right =>
    rcases Memory.exists_mem_of_lookups performed with ⟨first, firstHeld, second, secondHeld, rfl⟩
    exact canonical.holdTerm (Term.negativeZeroFree_binary_iff.mpr
      ⟨canonical.terms first firstHeld, canonical.terms second secondHeld⟩)
  | truth value =>
    cases performed
    exact canonical.holdFormula Formula.canonical_truth
  | compare relation left right =>
    rcases Memory.exists_mem_of_lookups performed with ⟨first, firstHeld, second, secondHeld, rfl⟩
    exact canonical.holdFormula (Formula.canonical_compare relation
      (canonical.terms first firstHeld) (canonical.terms second secondHeld))
  | join connective left right =>
    rcases Memory.exists_mem_of_lookups performed with ⟨first, firstHeld, second, secondHeld, rfl⟩
    exact canonical.holdFormula (Formula.canonical_join connective
      (canonical.formulas first firstHeld) (canonical.formulas second secondHeld))
  | negate operand =>
    rcases Memory.exists_mem_of_lookup performed with ⟨formula, held, rfl⟩
    exact canonical.holdFormula (Formula.canonical_negate (canonical.formulas formula held))
  | quantify binders body =>
    rcases Memory.exists_mem_of_lookup performed with ⟨formula, held, rfl⟩
    exact canonical.holdFormula
      (Formula.canonical_universal_iff.mpr (canonical.formulas formula held))
  | releaseTerm index =>
    cases performed
    exact ⟨fun term held => canonical.terms term (List.eraseIdx_subset held), canonical.formulas⟩
  | releaseFormula index =>
    cases performed
    exact ⟨canonical.terms,
      fun formula held => canonical.formulas formula (List.eraseIdx_subset held)⟩

theorem Canonical.foldlM (canonical : trees.Canonical) (calls : List Call)
    (ran : calls.foldlM Trees.perform trees = some next) : next.Canonical := by
  induction calls generalizing trees with
  | nil =>
    obtain rfl := Option.some.inj ran
    exact canonical
  | cons call rest inductionHypothesis =>
    rw [List.foldlM_cons] at ran
    rcases Option.bind_eq_some_iff.mp ran with ⟨middle, performed, restRan⟩
    exact inductionHypothesis (canonical.perform performed) restRan

theorem canonical_of_run {calls : List Call} (ran : run calls = some trees) :
    trees.Canonical :=
  Canonical.foldlM ⟨by simp, by simp⟩ calls ran

end Trees

/-! ## The calls that build a tree -/

/-- The calls that build a term from its leaves.  Every call holds one term, so the
left operand of a node lies below as many terms as the right one has nodes. -/
def Term.calls : Term → List Call
  | constant value => [.constant value]
  | var v => [.var v]
  | neg operand => operand.calls ++ [.neg 0]
  | binary operation left right =>
    left.calls ++ (right.calls ++ [.binary operation right.nodeCount 0])

/-- The calls that build a formula from the leaves of its terms. -/
def Formula.calls : Formula → List Call
  | truth value => [.truth value]
  | comparison relation left right =>
    left.calls ++ (right.calls ++ [.compare relation right.nodeCount 0])
  | junction connective left right =>
    left.calls ++ (right.calls ++ [.join connective right.nodeCount 0])
  | negation operand => operand.calls ++ [.negate 0]
  | universal binders body => body.calls ++ [.quantify binders 0]

/-- What lies right below some objects is found by counting them. -/
theorem getElem?_below {α : Type} {count : Nat} {latest object : α} {between rest : List α}
    (counted : between.length + 1 = count) :
    (latest :: (between ++ object :: rest))[count]? = some object := by
  subst counted
  simp

/-- The calls of a term hold the term that is built again, above one term for each
other node. -/
theorem Term.run_calls (term : Term) (trees : Trees) :
    ∃ below : List Term, below.length + 1 = term.nodeCount ∧
      term.calls.foldlM Trees.perform trees =
        some { trees with terms := term.rebuild :: (below ++ trees.terms) } := by
  induction term generalizing trees with
  | constant value => exact ⟨[], rfl, rfl⟩
  | var v => exact ⟨[], rfl, rfl⟩
  | neg operand inductionHypothesis =>
    obtain ⟨below, count, ran⟩ := inductionHypothesis trees
    refine ⟨operand.rebuild :: below, by simp [nodeCount, ← count], ?_⟩
    rw [calls, List.foldlM_append, ran]
    rfl
  | binary operation left right leftHypothesis rightHypothesis =>
    obtain ⟨leftBelow, leftCount, leftRan⟩ := leftHypothesis trees
    obtain ⟨rightBelow, rightCount, rightRan⟩ := rightHypothesis
      { trees with terms := left.rebuild :: (leftBelow ++ trees.terms) }
    refine ⟨right.rebuild :: (rightBelow ++ left.rebuild :: leftBelow), ?_, ?_⟩
    · simp only [nodeCount, List.length_cons, List.length_append]
      omega
    · rw [calls, List.foldlM_append, leftRan]
      show (right.calls ++ [Call.binary operation right.nodeCount 0]).foldlM Trees.perform _ = _
      rw [List.foldlM_append, rightRan]
      simp [Trees.perform, getElem?_below rightCount, rebuild]

/-- The calls of a formula hold the formula that is built again, above one formula for
each other node. -/
theorem Formula.run_calls (formula : Formula) (trees : Trees) :
    ∃ (below : List Formula) (terms : List Term), below.length + 1 = formula.nodeCount ∧
      formula.calls.foldlM Trees.perform trees =
        some ⟨terms, formula.rebuild :: (below ++ trees.formulas)⟩ := by
  induction formula generalizing trees with
  | truth value => exact ⟨[], trees.terms, rfl, rfl⟩
  | comparison relation left right =>
    obtain ⟨leftBelow, leftCount, leftRan⟩ := left.run_calls trees
    obtain ⟨rightBelow, rightCount, rightRan⟩ := right.run_calls
      { trees with terms := left.rebuild :: (leftBelow ++ trees.terms) }
    refine ⟨[], right.rebuild :: (rightBelow ++ left.rebuild :: (leftBelow ++ trees.terms)), rfl,
      ?_⟩
    rw [calls, List.foldlM_append, leftRan]
    show (right.calls ++ [Call.compare relation right.nodeCount 0]).foldlM Trees.perform _ = _
    rw [List.foldlM_append, rightRan]
    simp [Trees.perform, getElem?_below rightCount, rebuild_comparison]
  | junction connective left right leftHypothesis rightHypothesis =>
    obtain ⟨leftBelow, leftTerms, leftCount, leftRan⟩ := leftHypothesis trees
    obtain ⟨rightBelow, rightTerms, rightCount, rightRan⟩ := rightHypothesis
      ⟨leftTerms, left.rebuild :: (leftBelow ++ trees.formulas)⟩
    refine ⟨right.rebuild :: (rightBelow ++ left.rebuild :: leftBelow), rightTerms, ?_, ?_⟩
    · simp only [nodeCount, List.length_cons, List.length_append]
      omega
    · rw [calls, List.foldlM_append, leftRan]
      show (right.calls ++ [Call.join connective right.nodeCount 0]).foldlM Trees.perform _ = _
      rw [List.foldlM_append, rightRan]
      simp [Trees.perform, getElem?_below rightCount, rebuild_junction]
  | negation operand inductionHypothesis =>
    obtain ⟨below, terms, count, ran⟩ := inductionHypothesis trees
    refine ⟨operand.rebuild :: below, terms, by simp [nodeCount, ← count], ?_⟩
    rw [calls, List.foldlM_append, ran]
    rfl
  | universal binders body inductionHypothesis =>
    obtain ⟨below, terms, count, ran⟩ := inductionHypothesis trees
    refine ⟨body.rebuild :: below, terms, by simp [nodeCount, ← count], ?_⟩
    rw [calls, List.foldlM_append, ran]
    rfl

/-- The formulas that runs of constructor calls build are the canonical ones, and these
are the formulas that building them again gives back in silence.  So whatever was built
from a tree is not changed by building it once more. -/
theorem Formula.built_iff_canonical (leaf : LeafHash) (formula : Formula) :
    ((∃ calls memory, Memory.run leaf calls = some memory ∧
        ∃ object ∈ memory.formulas, object.tree = formula) ↔ formula.Canonical) ∧
      (formula.Canonical ↔ formula.rebuildLogged = .silent formula) ∧
      formula.rebuild.rebuildLogged = .silent formula.rebuild := by
  constructor
  · constructor
    · rintro ⟨calls, memory, ran, object, held, rfl⟩
      obtain ⟨_, followed⟩ := Memory.sound_and_trees_of_foldlM calls Memory.sound_empty ran
      exact (Trees.canonical_of_run followed).formulas _ (List.mem_map_of_mem held)
    · intro canonical
      have same : formula.rebuild = formula :=
        congrArg Logged.value (rebuildLogged_eq_silent_iff.mpr canonical)
      obtain ⟨below, terms, _, built⟩ := formula.run_calls ⟨[], []⟩
      obtain ⟨calls, memory, _, ran, follows⟩ := Memory.exists_run leaf built
      have held : formula ∈ memory.trees.formulas := by
        rw [follows, same]
        exact List.mem_cons_self
      rcases List.mem_map.mp held with ⟨object, isHeld, stands⟩
      exact ⟨calls, memory, ran, object, isHeld, stands⟩
  constructor
  · exact rebuildLogged_eq_silent_iff.symm
  · exact rebuildLogged_eq_silent_iff.mpr formula.canonical_rebuild

end FloatLogic
