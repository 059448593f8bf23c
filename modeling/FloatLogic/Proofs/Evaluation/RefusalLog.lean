import FloatLogic.Log
import FloatLogic.Proofs.Evaluation.Failures
import FloatLogic.Proofs.Occurrence.Path
import Mathlib.Data.List.TakeWhile

/-!
# The log of evaluation

The subformulas of a formula are listed in preorder, a node before its operands and the
left operand before the right one.  So the first quantifier of the list is the leftmost
one of the outermost quantifiers, and the comparisons before it are those on its left.

Evaluation ends at the first subformula that stops it, which is a comparison that fails
or a quantifier (`Formula.endsAt`).  A quantifier is the only one to be logged, so the
log holds one line if the evaluation is refused and none if it is not.
-/

namespace FloatLogic

/-! ## How an evaluation ends -/

namespace Evaluation

variable {α β : Type} {first : Evaluation α} {next : α → Evaluation β}
  {stop later : Option (Failure × List Refusal)}

/-- An evaluation fails as a stop says, or it gives a value if nothing stops it. -/
def EndsAt (evaluation : Evaluation α) : Option (Failure × List Refusal) → Prop
  | some (failure, refusals) => evaluation = ⟨.error failure, refusals⟩
  | none => ∃ value, evaluation = .ofResult (.ok value)

theorem endsAt_ofResult (result : Except Failure α) :
    (ofResult result).EndsAt ((failure? result).map fun failure => (failure, [])) := by
  cases result with
  | error failure => rfl
  | ok value => exact ⟨value, rfl⟩

/-- Two evaluations in sequence end where the first one does, or else where the second
one does. -/
theorem EndsAt.onSuccess (ends : first.EndsAt stop)
    (endsLater : ∀ value, (next value).EndsAt later) :
    (first.onSuccess next).EndsAt (stop.or later) := by
  cases stop with
  | some stop =>
    obtain ⟨failure, refusals⟩ := stop
    obtain rfl : first = ⟨.error failure, refusals⟩ := ends
    rfl
  | none =>
    obtain ⟨value, rfl⟩ : ∃ value, first = ofResult (.ok value) := ends
    exact endsLater value

end Evaluation

/-- No node of a term is refused. -/
theorem Term.quantifier_notMem_failures (term : Term) (environment : Environment) :
    .quantifier ∉ term.failures environment := by
  intro mem
  obtain ⟨node, _, fails⟩ := List.mem_filterMap.mp mem
  unfold Term.ownFailure at fails
  split at fails
  · split at fails <;> cases fails
  · split at fails
    · split at fails <;> cases fails
    · cases fails
  · cases fails

namespace Formula

variable {environment : Environment} {formula part : Formula} {binders : VarSet}
  {refusals : List Refusal}

/-- How a node stops an evaluation by itself: a comparison by a failure of its terms, a
quantifier by a refusal. -/
def stop? (environment : Environment) : Formula → Option (Failure × List Refusal)
  | comparison relation left right =>
    (failure? ((comparison relation left right).evaluate environment)).map fun failure =>
      (failure, [])
  | universal binders _ => some (.quantifier, [⟨binders⟩])
  | _ => none

/-- An evaluation ends at the first node that stops it. -/
theorem endsAt (formula : Formula) (environment : Environment) :
    (formula.evaluateLogged environment).EndsAt
      (formula.subformulas.findSome? (stop? environment)) := by
  induction formula with
  | truth value => exact ⟨value, rfl⟩
  | comparison relation left right =>
    rw [subformulas, List.findSome?_singleton]
    exact Evaluation.endsAt_ofResult _
  | junction connective left right leftHypothesis rightHypothesis =>
    -- What is made of the two values cannot fail, so nothing stops behind the operands.
    rw [subformulas, List.findSome?_cons_of_isNone (by rfl), List.findSome?_append,
      ← Option.or_none (o := List.findSome? _ right.subformulas)]
    refine leftHypothesis.onSuccess fun leftValue => rightHypothesis.onSuccess fun rightValue => ?_
    exact ⟨_, rfl⟩
  | negation operand inductionHypothesis =>
    rw [subformulas, List.findSome?_cons_of_isNone (by rfl),
      ← Option.or_none (o := List.findSome? _ operand.subformulas)]
    exact inductionHypothesis.onSuccess fun value => ⟨_, rfl⟩
  | universal binders body => rfl

/-! ## Nodes that stop an evaluation -/

/-- A comparison fails for its terms and is not refused. -/
theorem evaluate_comparison_ne_quantifier {relation : Comparison} {left right : Term} :
    (comparison relation left right).evaluate environment ≠ .error .quantifier := by
  intro refused
  rw [← failure?_eq_some_iff, ← head?_failures, failures_comparison] at refused
  rcases List.mem_append.mp (List.mem_of_head? refused) with inLeft | inRight
  · exact left.quantifier_notMem_failures environment inLeft
  · exact right.quantifier_notMem_failures environment inRight

theorem stop?_eq_none_iff :
    part.stop? environment = none ↔
      part.binders? = none ∧ ∀ relation left right, part = comparison relation left right →
        ∃ value, (comparison relation left right).evaluate environment = .ok value := by
  cases part with
  | truth value => simp [stop?, binders?]
  | comparison relation left right =>
    rw [stop?, Option.map_eq_none_iff, failure?_eq_none_iff]
    constructor
    · intro succeeds
      refine ⟨rfl, ?_⟩
      rintro _ _ _ ⟨⟩
      exact succeeds
    · rintro ⟨_, succeeds⟩
      exact succeeds relation left right rfl
  | junction connective left right => simp [stop?, binders?]
  | negation operand => simp [stop?, binders?]
  | universal binders body => simp [stop?, binders?]

/-- Only a quantifier is refused, and the refusal names its binders. -/
theorem stop?_eq_quantifier_iff :
    part.stop? environment = some (.quantifier, refusals) ↔
      ∃ binders, part.binders? = some binders ∧ refusals = [⟨binders⟩] := by
  cases part with
  | truth value => simp [stop?, binders?]
  | comparison relation left right =>
    refine iff_of_false (fun stops => ?_) (by simp [binders?])
    obtain ⟨failure, fails, same⟩ := Option.map_eq_some_iff.mp stops
    cases same
    exact evaluate_comparison_ne_quantifier (failure?_eq_some_iff.mp fails)
  | junction connective left right => simp [stop?, binders?]
  | negation operand => simp [stop?, binders?]
  | universal binders body => simp [stop?, binders?, eq_comm]

/-- A stop that is no refusal is not recorded. -/
theorem eq_nil_of_stop? {failure : Failure}
    (stops : part.stop? environment = some (failure, refusals))
    (different : failure ≠ .quantifier) : refusals = [] := by
  cases part with
  | truth value => cases stops
  | comparison relation left right =>
    obtain ⟨_, _, same⟩ := Option.map_eq_some_iff.mp stops
    exact (Prod.mk.inj same).2.symm
  | junction connective left right => cases stops
  | negation operand => cases stops
  | universal binders body =>
    cases stops
    exact absurd rfl different

/-! ## The leftmost quantifier -/

/-- The binders of the leftmost one of the outermost quantifiers. -/
def leftmostBinders? (formula : Formula) : Option VarSet := formula.subformulas.findSome? binders?

/-- The subformulas before the first quantifier. -/
def beforeQuantifier (formula : Formula) : List Formula :=
  formula.subformulas.takeWhile fun part => part.binders? = none

theorem binders?_eq_none_of_mem_beforeQuantifier (mem : part ∈ formula.beforeQuantifier) :
    part.binders? = none := by
  unfold beforeQuantifier at mem
  simpa using List.mem_takeWhile_imp mem

theorem beforeQuantifier_eq {before after : List Formula} {node : Formula}
    (split : formula.subformulas = before ++ node :: after)
    (isQuantifier : node.binders? = some binders)
    (others : ∀ part ∈ before, part.binders? = none) : formula.beforeQuantifier = before := by
  rw [beforeQuantifier, split,
    List.takeWhile_append_of_pos fun part mem => decide_eq_true (others part mem),
    List.takeWhile_cons_of_neg (by simp [isQuantifier]), List.append_nil]

theorem leftmostBinders?_eq_some_iff :
    formula.leftmostBinders? = some binders ↔
      ∃ node after, formula.subformulas = formula.beforeQuantifier ++ node :: after ∧
        node.binders? = some binders := by
  rw [leftmostBinders?, List.findSome?_eq_some_iff]
  constructor
  · rintro ⟨before, node, after, split, isQuantifier, others⟩
    rw [beforeQuantifier_eq split isQuantifier others]
    exact ⟨node, after, split, isQuantifier⟩
  · rintro ⟨node, after, split, isQuantifier⟩
    exact ⟨_, node, after, split, isQuantifier,
      fun part => binders?_eq_none_of_mem_beforeQuantifier⟩

theorem leftmostBinders?_eq_none_iff :
    formula.leftmostBinders? = none ↔ formula.QuantifierFree := by
  rw [leftmostBinders?, List.findSome?_eq_none_iff, QuantifierFree]
  constructor
  · intro others binders body mem
    cases others _ mem
  · intro free part mem
    cases isQuantifier : part.binders? with
    | none => rfl
    | some binders =>
      obtain ⟨body, rfl⟩ := binders?_eq_some_iff.mp isQuantifier
      exact absurd mem (free binders body)

theorem exists_leftmostBinders?_iff :
    (∃ binders, formula.leftmostBinders? = some binders) ↔ ¬ formula.QuantifierFree := by
  rw [← leftmostBinders?_eq_none_iff]
  exact Option.ne_none_iff_exists'.symm

/-- The leftmost quantifier is an outermost one. -/
theorem exists_path_of_leftmostBinders? (leftmost : formula.leftmostBinders? = some binders) :
    ∃ nodes body, formula.Path (nodes ++ [universal binders body]) (universal binders body) ∧
      ∀ node ∈ nodes, node.binders? = none := by
  unfold leftmostBinders? at leftmost
  induction formula with
  | truth value => cases leftmost
  | comparison relation left right => cases leftmost
  | junction connective left right leftHypothesis rightHypothesis =>
    rw [subformulas, List.findSome?_cons_of_isNone (by rfl), List.findSome?_append,
      Option.or_eq_some_iff] at leftmost
    rcases leftmost with inLeft | ⟨_, inRight⟩
    · obtain ⟨nodes, body, path, outermost⟩ := leftHypothesis inLeft
      exact ⟨_ :: nodes, body, .down (by simp [children]) path,
        List.forall_mem_cons.mpr ⟨rfl, outermost⟩⟩
    · obtain ⟨nodes, body, path, outermost⟩ := rightHypothesis inRight
      exact ⟨_ :: nodes, body, .down (by simp [children]) path,
        List.forall_mem_cons.mpr ⟨rfl, outermost⟩⟩
  | negation operand inductionHypothesis =>
    rw [subformulas, List.findSome?_cons_of_isNone (by rfl)] at leftmost
    obtain ⟨nodes, body, path, outermost⟩ := inductionHypothesis leftmost
    exact ⟨_ :: nodes, body, .down (by simp [children]) path,
      List.forall_mem_cons.mpr ⟨rfl, outermost⟩⟩
  | universal outer body =>
    cases leftmost
    exact ⟨[], body, .here _, by simp⟩

/-! ## Refusals -/

/-- No comparison before the first quantifier fails. -/
def PassesComparisons (formula : Formula) (environment : Environment) : Prop :=
  ∀ relation left right, comparison relation left right ∈ formula.beforeQuantifier →
    ∃ value, (comparison relation left right).evaluate environment = .ok value

/-- The first stop is a refusal exactly if there is a quantifier and no comparison before
it fails. -/
theorem findSome?_stop?_eq_quantifier_iff :
    formula.subformulas.findSome? (stop? environment) = some (.quantifier, refusals) ↔
      formula.PassesComparisons environment ∧
        ∃ binders, formula.leftmostBinders? = some binders ∧ refusals = [⟨binders⟩] := by
  rw [List.findSome?_eq_some_iff]
  constructor
  · rintro ⟨before, node, after, split, stops, passed⟩
    obtain ⟨binders, isQuantifier, recorded⟩ := stop?_eq_quantifier_iff.mp stops
    have isBefore := beforeQuantifier_eq split isQuantifier fun part mem =>
      (stop?_eq_none_iff.mp (passed part mem)).1
    rw [← isBefore] at split passed
    refine ⟨fun relation left right mem => ?_, binders, ?_, recorded⟩
    · exact (stop?_eq_none_iff.mp (passed _ mem)).2 relation left right rfl
    · exact leftmostBinders?_eq_some_iff.mpr ⟨node, after, split, isQuantifier⟩
  · rintro ⟨passes, binders, leftmost, recorded⟩
    obtain ⟨node, after, split, isQuantifier⟩ := leftmostBinders?_eq_some_iff.mp leftmost
    refine ⟨_, node, after, split,
      stop?_eq_quantifier_iff.mpr ⟨binders, isQuantifier, recorded⟩, fun part mem => ?_⟩
    refine stop?_eq_none_iff.mpr ⟨binders?_eq_none_of_mem_beforeQuantifier mem, ?_⟩
    rintro relation left right rfl
    exact passes relation left right mem

/-- Either the leftmost quantifier is reached, refused and recorded, or nothing is. -/
theorem refused_or_unrecorded (formula : Formula) (environment : Environment) :
    (∃ binders, formula.leftmostBinders? = some binders ∧
      formula.PassesComparisons environment ∧
      formula.evaluateLogged environment = ⟨.error .quantifier, [⟨binders⟩]⟩) ∨
    (¬ (¬ formula.QuantifierFree ∧ formula.PassesComparisons environment) ∧
      formula.evaluate environment ≠ .error .quantifier ∧
      (formula.evaluateLogged environment).records = []) := by
  have ends := formula.endsAt environment
  by_cases reached : ¬ formula.QuantifierFree ∧ formula.PassesComparisons environment
  · obtain ⟨quantified, passes⟩ := reached
    obtain ⟨binders, leftmost⟩ := exists_leftmostBinders?_iff.mpr quantified
    rw [findSome?_stop?_eq_quantifier_iff.mpr ⟨passes, binders, leftmost, rfl⟩] at ends
    exact .inl ⟨binders, leftmost, passes, ends⟩
  · refine .inr ⟨reached, ?_⟩
    rw [evaluate]
    cases stopped : formula.subformulas.findSome? (stop? environment) with
    | none =>
      rw [stopped] at ends
      obtain ⟨value, evaluated⟩ := ends
      rw [evaluated]
      refine ⟨fun impossible => ?_, rfl⟩
      cases impossible
    | some stop =>
      obtain ⟨failure, refusals⟩ := stop
      rw [stopped] at ends
      replace ends : formula.evaluateLogged environment = ⟨.error failure, refusals⟩ := ends
      have different : failure ≠ .quantifier := by
        rintro rfl
        obtain ⟨passes, binders, leftmost, _⟩ := findSome?_stop?_eq_quantifier_iff.mp stopped
        exact reached ⟨exists_leftmostBinders?_iff.mp ⟨binders, leftmost⟩, passes⟩
      obtain ⟨_, node, _, _, stops, _⟩ := List.findSome?_eq_some_iff.mp stopped
      rw [ends]
      exact ⟨fun refused => different (Except.error.inj refused), eq_nil_of_stop? stops different⟩

/-- An evaluation that is refused logs one line, which names the binders of the leftmost
of the outermost quantifiers, and every other evaluation logs nothing.  It is refused
exactly if there is a quantifier and no comparison to the left of that one fails. -/
theorem refusals_are_logged (formula : Formula) (environment : Environment) (names : Naming) :
    (formula.evaluate environment = .error .quantifier →
      ∃ binders, formula.leftmostBinders? = some binders ∧
        (formula.evaluateLogged environment).records.map (Refusal.logLine names) =
          [⟨.debug, "Refusing to evaluate a universal quantifier over " ++
            binders.text names⟩]) ∧
    (formula.evaluate environment ≠ .error .quantifier →
      (formula.evaluateLogged environment).records.map (Refusal.logLine names) = []) ∧
    (formula.evaluate environment = .error .quantifier ↔
      ¬ formula.QuantifierFree ∧ ∀ relation left right,
        comparison relation left right ∈ formula.beforeQuantifier →
          ∃ value, (comparison relation left right).evaluate environment = .ok value) ∧
    ∀ binders, formula.leftmostBinders? = some binders →
      ∃ nodes body, formula.Path (nodes ++ [universal binders body]) (universal binders body) ∧
        ∀ node ∈ nodes, node.binders? = none := by
  rcases formula.refused_or_unrecorded environment with
    ⟨binders, leftmost, passes, refused⟩ | ⟨unreached, different, unrecorded⟩
  · have isRefusal : formula.evaluate environment = .error .quantifier :=
      congrArg Logged.value refused
    refine ⟨fun _ => ⟨binders, leftmost, ?_⟩, fun other => absurd isRefusal other,
      iff_of_true isRefusal ⟨exists_leftmostBinders?_iff.mp ⟨binders, leftmost⟩, passes⟩,
      fun binders => exists_path_of_leftmostBinders?⟩
    rw [refused]
    rfl
  · refine ⟨fun isRefusal => absurd isRefusal different, fun _ => ?_,
      iff_of_false different unreached, fun binders => exists_path_of_leftmostBinders?⟩
    rw [unrecorded]
    rfl

/-- Two quantifiers, a comparison to the left of both, and a division by zero to the
right. -/
def quantifiersBetweenComparisons : Formula :=
  junction .and (comparison .lt (.var ⟨0⟩) (.constant ⟨0x3ff0000000000000⟩))
    (junction .or
      (negation (universal (.ofList [⟨2⟩, ⟨1⟩]) (universal (.ofList [⟨0⟩]) (truth true))))
      (comparison .eq (.var ⟨0⟩ / .constant ⟨0⟩) (.var ⟨1⟩)))

/-- The first quantifier is refused if the comparison on its left has a value, although
the one on its right has none; otherwise nothing is logged. -/
theorem refusals_are_logged_between_comparisons :
    quantifiersBetweenComparisons.evaluate (.ofList [(⟨0⟩, ⟨0⟩)]) = .error .quantifier ∧
      (quantifiersBetweenComparisons.evaluateLogged (.ofList [(⟨0⟩, ⟨0⟩)])).records.map
          (Refusal.logLine (Scope.ofNames ["x", "y", "z"]).naming) =
        [⟨.debug, "Refusing to evaluate a universal quantifier over \x7by, z\x7d"⟩] ∧
      quantifiersBetweenComparisons.evaluate .empty ≠ .error .quantifier ∧
      (quantifiersBetweenComparisons.evaluateLogged .empty).records.map
          (Refusal.logLine (Scope.ofNames ["x", "y", "z"]).naming) = [] := by
  have refused : quantifiersBetweenComparisons.evaluate (.ofList [(⟨0⟩, ⟨0⟩)]) =
      .error .quantifier := by decide +kernel
  have different : quantifiersBetweenComparisons.evaluate .empty ≠ .error .quantifier := by
    decide +kernel
  have leftmost : quantifiersBetweenComparisons.leftmostBinders? =
      some (.ofList [⟨1⟩, ⟨2⟩]) := by decide +kernel
  obtain ⟨binders, isLeftmost, logged⟩ := (refusals_are_logged _ _ _).1 refused
  obtain rfl := Option.some.inj (isLeftmost.symm.trans leftmost)
  exact ⟨refused, logged, different, (refusals_are_logged _ _ _).2.1 different⟩

end Formula

end FloatLogic
