import FloatLogic.Proofs.Double.Fields
import FloatLogic.Proofs.Folding.Value

/-!
# Canonical formulas

A formula is canonical if no rule of folding applies to any of its nodes and no
constant in it is the negative zero.  The folding operations give canonical formulas
for canonical operands, and building a formula again from its leaves gives the formula
back in silence exactly if it is canonical.
-/

namespace FloatLogic

/-! ## Terms -/

namespace Term

/-- No constant of the term is the negative zero. -/
def NegativeZeroFree (term : Term) : Prop := constant .negativeZero ∉ term.subterms

variable {operand left right : Term} {operation : Arithmetic} {value : Double}

@[simp]
theorem negativeZeroFree_constant_iff :
    (Term.constant value).NegativeZeroFree ↔ value ≠ .negativeZero := by
  simp [NegativeZeroFree, eq_comm]

@[simp]
theorem negativeZeroFree_var {v : Variable} : (Term.var v).NegativeZeroFree := by
  simp [NegativeZeroFree]

@[simp]
theorem negativeZeroFree_neg_iff :
    (Term.neg operand).NegativeZeroFree ↔ operand.NegativeZeroFree := by
  simp [NegativeZeroFree]

@[simp]
theorem negativeZeroFree_binary_iff :
    (Term.binary operation left right).NegativeZeroFree ↔
      left.NegativeZeroFree ∧ right.NegativeZeroFree := by
  simp [NegativeZeroFree]

theorem negativeZeroFree_ofDouble (value : Double) : (ofDouble value).NegativeZeroFree :=
  negativeZeroFree_constant_iff.mpr value.withoutZeroSign_ne_negativeZero

theorem negativeZeroFree_rebuild (term : Term) : term.rebuild.NegativeZeroFree := by
  induction term with
  | constant value => exact negativeZeroFree_ofDouble value
  | var v => exact negativeZeroFree_var
  | neg operand inductionHypothesis => exact negativeZeroFree_neg_iff.mpr inductionHypothesis
  | binary operation left right leftHypothesis rightHypothesis =>
    exact negativeZeroFree_binary_iff.mpr ⟨leftHypothesis, rightHypothesis⟩

/-- Building a term again gives it back if there is no negative zero to replace. -/
theorem rebuild_eq_self {term : Term} (free : term.NegativeZeroFree) : term.rebuild = term := by
  induction term with
  | constant value =>
    exact congrArg constant
      (Double.withoutZeroSign_eq_self_iff.mpr (negativeZeroFree_constant_iff.mp free))
  | var v => rfl
  | neg operand inductionHypothesis =>
    exact congrArg neg (inductionHypothesis (negativeZeroFree_neg_iff.mp free))
  | binary operation left right leftHypothesis rightHypothesis =>
    rcases negativeZeroFree_binary_iff.mp free with ⟨leftFree, rightFree⟩
    rw [rebuild, leftHypothesis leftFree, rightHypothesis rightFree]

end Term

/-! ## Formulas -/

namespace Formula

/-- No rule of folding applies anywhere in the formula, and no constant of its terms
is the negative zero.  Quantifiers may have any binders and any canonical body. -/
structure Canonical (formula : Formula) : Prop where
  junctions : ∀ connective left right, junction connective left right ∈ formula.subformulas →
    ∀ value, left ≠ truth value ∧ right ≠ truth value
  negations : ∀ operand, negation operand ∈ formula.subformulas → ∀ value, operand ≠ truth value
  comparisons : formula.ForallComparisons fun left right => left ≠ right
  constants : formula.ForallComparisons fun left right =>
    left.NegativeZeroFree ∧ right.NegativeZeroFree

theorem truth?_eq_none_iff {formula : Formula} :
    formula.truth? = none ↔ ∀ value, formula ≠ truth value := by
  cases formula <;> simp [truth?]

/-- Every formula below a canonical one is canonical. -/
theorem Canonical.mono {whole part : Formula} (canonical : whole.Canonical)
    (below : part.subformulas ⊆ whole.subformulas) : part.Canonical where
  junctions connective left right isPart :=
    canonical.junctions connective left right (below isPart)
  negations operand isPart := canonical.negations operand (below isPart)
  comparisons relation left right isPart :=
    canonical.comparisons relation left right (below isPart)
  constants relation left right isPart := canonical.constants relation left right (below isPart)

variable {first second operand body : Formula} {left right : Term}

@[simp]
theorem canonical_truth {value : Bool} : (Formula.truth value).Canonical where
  junctions := by simp
  negations := by simp
  comparisons := forallComparisons_truth
  constants := forallComparisons_truth

@[simp]
theorem canonical_comparison_iff {relation : Comparison} :
    (Formula.comparison relation left right).Canonical ↔
      left ≠ right ∧ left.NegativeZeroFree ∧ right.NegativeZeroFree := by
  constructor
  · intro canonical
    exact ⟨forallComparisons_comparison_iff.mp canonical.comparisons,
      forallComparisons_comparison_iff.mp canonical.constants⟩
  · rintro ⟨different, free⟩
    exact {
      junctions := by simp
      negations := by simp
      comparisons := forallComparisons_comparison_iff.mpr different
      constants := forallComparisons_comparison_iff.mpr free }

@[simp]
theorem canonical_junction_iff {connective : Connective} :
    (Formula.junction connective first second).Canonical ↔
      (first.truth? = none ∧ second.truth? = none) ∧ first.Canonical ∧ second.Canonical := by
  rw [truth?_eq_none_iff, truth?_eq_none_iff]
  constructor
  · intro canonical
    have here := canonical.junctions connective first second (by simp)
    refine ⟨⟨fun value => (here value).1, fun value => (here value).2⟩, ?_, ?_⟩
    · exact canonical.mono fun part below => by simp [below]
    · exact canonical.mono fun part below => by simp [below]
  · rintro ⟨⟨firstOpen, secondOpen⟩, firstCanonical, secondCanonical⟩
    refine ⟨fun _ _ _ below => ?_, fun _ below => ?_,
      forallComparisons_junction_iff.mpr ⟨firstCanonical.comparisons, secondCanonical.comparisons⟩,
      forallComparisons_junction_iff.mpr ⟨firstCanonical.constants, secondCanonical.constants⟩⟩
    · rcases mem_subformulas_junction.mp below with same | below | below
      · cases same
        exact fun value => ⟨firstOpen value, secondOpen value⟩
      · exact firstCanonical.junctions _ _ _ below
      · exact secondCanonical.junctions _ _ _ below
    · rcases mem_subformulas_junction.mp below with same | below | below
      · cases same
      · exact firstCanonical.negations _ below
      · exact secondCanonical.negations _ below

@[simp]
theorem canonical_negation_iff :
    (Formula.negation operand).Canonical ↔ operand.truth? = none ∧ operand.Canonical := by
  rw [truth?_eq_none_iff]
  constructor
  · intro canonical
    refine ⟨canonical.negations operand (by simp), ?_⟩
    exact canonical.mono fun part below => by simp [below]
  · rintro ⟨operandOpen, canonical⟩
    refine ⟨fun _ _ _ below => ?_, fun _ below => ?_,
      forallComparisons_negation_iff.mpr canonical.comparisons,
      forallComparisons_negation_iff.mpr canonical.constants⟩
    · rcases mem_subformulas_negation.mp below with same | below
      · cases same
      · exact canonical.junctions _ _ _ below
    · rcases mem_subformulas_negation.mp below with same | below
      · cases same
        exact operandOpen
      · exact canonical.negations _ below

@[simp]
theorem canonical_universal_iff {binders : VarSet} :
    (Formula.universal binders body).Canonical ↔ body.Canonical := by
  constructor
  · intro canonical
    exact canonical.mono fun part below => by simp [below]
  · intro canonical
    refine ⟨fun _ _ _ below => ?_, fun _ below => ?_,
      forallComparisons_universal_iff.mpr canonical.comparisons,
      forallComparisons_universal_iff.mpr canonical.constants⟩
    · rcases mem_subformulas_universal.mp below with same | below
      · cases same
      · exact canonical.junctions _ _ _ below
    · rcases mem_subformulas_universal.mp below with same | below
      · cases same
      · exact canonical.negations _ below

/-! ## The folding operations -/

theorem canonical_compare (relation : Comparison) (leftFree : left.NegativeZeroFree)
    (rightFree : right.NegativeZeroFree) : (compare relation left right).Canonical := by
  rw [compare, compareLogged]
  split
  · exact canonical_truth
  · next different => exact canonical_comparison_iff.mpr ⟨different, leftFree, rightFree⟩

/-- A junction that does not fold has no truth value for an operand. -/
theorem fold?_eq_none_iff {connective : Connective} :
    connective.fold? first second = none ↔ first.truth? = none ∧ second.truth? = none := by
  rw [Connective.fold?]
  split
  · next absorbed => rcases absorbed with absorbing | absorbing <;> simp [absorbing]
  · cases first.truth? <;> cases second.truth? <;> simp

theorem canonical_join (connective : Connective) (firstCanonical : first.Canonical)
    (secondCanonical : second.Canonical) : (join connective first second).Canonical := by
  rw [join, joinLogged]
  cases folds : connective.fold? first second with
  | none =>
    exact canonical_junction_iff.mpr
      ⟨fold?_eq_none_iff.mp folds, firstCanonical, secondCanonical⟩
  | some outcome =>
    cases outcome with
    | truth value => exact canonical_truth
    | left => exact firstCanonical
    | right => exact secondCanonical

theorem canonical_negate (canonical : operand.Canonical) : operand.negate.Canonical := by
  rw [negate, negateLogged]
  cases constant : operand.truth? with
  | none => exact canonical_negation_iff.mpr ⟨constant, canonical⟩
  | some value => exact canonical_truth

/-! ## Building a formula again from its leaves -/

/-- The tree with every term built again from its leaves. -/
def rebuildTerms : Formula → Formula
  | truth value => truth value
  | comparison relation left right => comparison relation left.rebuild right.rebuild
  | junction connective left right => junction connective left.rebuildTerms right.rebuildTerms
  | negation operand => negation operand.rebuildTerms
  | universal binders body => universal binders body.rebuildTerms

/-- Build a tree again from the leaves of its terms up to its root, and record the
folds. -/
def rebuildLogged (tree : Formula) : Logged Fold Formula := tree.rebuildTerms.buildLogged

/-- The formula that building a tree again from its leaves gives. -/
def rebuild (tree : Formula) : Formula := tree.rebuildLogged.value

theorem rebuild_comparison (relation : Comparison) (left right : Term) :
    (Formula.comparison relation left right).rebuild =
      compare relation left.rebuild right.rebuild := rfl

theorem rebuild_junction (connective : Connective) (left right : Formula) :
    (Formula.junction connective left right).rebuild =
      join connective left.rebuild right.rebuild := rfl

theorem canonical_rebuild (tree : Formula) : tree.rebuild.Canonical := by
  induction tree with
  | truth value => exact canonical_truth
  | comparison relation left right =>
    exact canonical_compare relation left.negativeZeroFree_rebuild right.negativeZeroFree_rebuild
  | junction connective left right leftHypothesis rightHypothesis =>
    exact canonical_join connective leftHypothesis rightHypothesis
  | negation operand inductionHypothesis => exact canonical_negate inductionHypothesis
  | universal binders body inductionHypothesis =>
    exact canonical_universal_iff.mpr inductionHypothesis

theorem rebuildTerms_eq_self {formula : Formula} (canonical : formula.Canonical) :
    formula.rebuildTerms = formula := by
  induction formula with
  | truth value => rfl
  | comparison relation left right =>
    rcases canonical_comparison_iff.mp canonical with ⟨_, leftFree, rightFree⟩
    rw [rebuildTerms, Term.rebuild_eq_self leftFree, Term.rebuild_eq_self rightFree]
  | junction connective left right leftHypothesis rightHypothesis =>
    rcases canonical_junction_iff.mp canonical with ⟨_, leftCanonical, rightCanonical⟩
    rw [rebuildTerms, leftHypothesis leftCanonical, rightHypothesis rightCanonical]
  | negation operand inductionHypothesis =>
    rw [rebuildTerms, inductionHypothesis (canonical_negation_iff.mp canonical).2]
  | universal binders body inductionHypothesis =>
    rw [rebuildTerms, inductionHypothesis (canonical_universal_iff.mp canonical)]

/-- No rule of folding fires while a canonical formula is built. -/
theorem buildLogged_eq_silent {formula : Formula} (canonical : formula.Canonical) :
    formula.buildLogged = .silent formula := by
  induction formula with
  | truth value => rfl
  | comparison relation left right =>
    exact if_neg (canonical_comparison_iff.mp canonical).1
  | junction connective left right leftHypothesis rightHypothesis =>
    rcases canonical_junction_iff.mp canonical with ⟨operandsOpen, leftCanonical, rightCanonical⟩
    have joined : joinLogged connective left right = .silent (junction connective left right) := by
      rw [joinLogged, fold?_eq_none_iff.mpr operandsOpen]
      rfl
    rw [buildLogged, leftHypothesis leftCanonical, rightHypothesis rightCanonical]
    exact joined
  | negation operand inductionHypothesis =>
    rcases canonical_negation_iff.mp canonical with ⟨operandOpen, operandCanonical⟩
    have negated : operand.negateLogged = .silent (negation operand) := by
      rw [negateLogged, operandOpen]
      rfl
    rw [buildLogged, inductionHypothesis operandCanonical]
    exact negated
  | universal binders body inductionHypothesis =>
    rw [buildLogged, inductionHypothesis (canonical_universal_iff.mp canonical)]
    rfl

/-- Building a formula again gives it back in silence exactly if it is canonical. -/
theorem rebuildLogged_eq_silent_iff {formula : Formula} :
    formula.rebuildLogged = .silent formula ↔ formula.Canonical := by
  constructor
  · intro silent
    have same : formula.rebuild = formula := congrArg Logged.value silent
    rw [← same]
    exact formula.canonical_rebuild
  · intro canonical
    rw [rebuildLogged, rebuildTerms_eq_self canonical, buildLogged_eq_silent canonical]

end Formula

end FloatLogic
