import FloatLogic.Environment.Lemmas
import FloatLogic.Evaluation
import FloatLogic.Proofs.Occurrence

/-!
# What an evaluation depends on

Two environments that give the free variables of a formula the same numbers, bit
for bit, or leave them unbound alike, evaluate the formula alike: to the same
truth value or the same failure, with the same refusals on the way.  A quantifier
is refused before its body is touched, so the variables it binds have no effect
although an environment may bind them too.
-/

namespace FloatLogic

namespace Environment

/-- Two environments bind the members of a set to the same numbers, bit for bit, and
leave the same members unbound. -/
def AgreesOn (first second : Environment) (set : VarSet) : Prop :=
  ∀ v ∈ set, first.get? v = second.get? v

instance (first second : Environment) (set : VarSet) : Decidable (first.AgreesOn second set) :=
  inferInstanceAs (Decidable (∀ v ∈ set.toList, first.get? v = second.get? v))

/-- The bindings for the members of a set. -/
def restrict (environment : Environment) (set : VarSet) : Environment where
  toList := environment.toList.filter fun binding => set.contains binding.1
  ordered := environment.ordered.filter _

variable {environment first second : Environment} {set left right : VarSet} {v : Variable}

@[simp]
theorem agreesOn_union_iff :
    first.AgreesOn second (left ∪ right) ↔
      first.AgreesOn second left ∧ first.AgreesOn second right := by
  simp [AgreesOn, or_imp, forall_and]

/-- A restricted environment binds the members of the set as before. -/
theorem get?_restrict_of_mem (mem : v ∈ set) :
    (environment.restrict set).get? v = environment.get? v := by
  ext value
  rw [get?_eq_some_iff, get?_eq_some_iff, restrict, List.mem_filter,
    VarSet.contains_eq_true_iff]
  exact and_iff_left mem

/-- Inserted bindings have no effect on a variable that none of them binds. -/
theorem get?_insertAll_of_notMem {bindings : List (Variable × Double)}
    (absent : ∀ binding ∈ bindings, binding.1 ≠ v) :
    (environment.insertAll bindings).get? v = environment.get? v := by
  induction bindings generalizing environment with
  | nil => rfl
  | cons binding rest inductionHypothesis =>
    have step : environment.insertAll (binding :: rest) =
        (environment.insert binding.1 binding.2).insertAll rest := rfl
    rw [step, inductionHypothesis fun other below => absent other (List.mem_cons_of_mem _ below),
      get?_insert, if_neg (absent binding List.mem_cons_self)]

end Environment

variable {first second : Environment}

/-- The value of a term depends on its variables alone. -/
theorem Term.evaluate_eq_of_agreesOn (term : Term) (agree : first.AgreesOn second term.vars) :
    term.evaluate first = term.evaluate second := by
  induction term with
  | constant value => rfl
  | var v => simp only [evaluate, Environment.lookup, agree v (VarSet.mem_singleton.mpr rfl)]
  | neg operand inductionHypothesis => simp only [evaluate, inductionHypothesis agree]
  | binary operation left right leftHypothesis rightHypothesis =>
    rcases Environment.agreesOn_union_iff.mp agree with ⟨leftAgree, rightAgree⟩
    simp only [evaluate, leftHypothesis leftAgree, rightHypothesis rightAgree]

namespace Formula

/-- The evaluation of a formula, with what it refuses, depends on the free variables
alone. -/
theorem evaluateLogged_eq_of_agreesOn (formula : Formula)
    (agree : first.AgreesOn second formula.freeVariables) :
    formula.evaluateLogged first = formula.evaluateLogged second := by
  induction formula with
  | truth value => rfl
  | comparison relation left right =>
    rcases Environment.agreesOn_union_iff.mp agree with ⟨leftAgree, rightAgree⟩
    simp only [evaluateLogged, left.evaluate_eq_of_agreesOn leftAgree,
      right.evaluate_eq_of_agreesOn rightAgree]
  | junction connective left right leftHypothesis rightHypothesis =>
    rcases Environment.agreesOn_union_iff.mp agree with ⟨leftAgree, rightAgree⟩
    simp only [evaluateLogged, leftHypothesis leftAgree, rightHypothesis rightAgree]
  | negation operand inductionHypothesis =>
    simp only [evaluateLogged, inductionHypothesis agree]
  | universal binders body =>
    -- The environments may differ on the binders, but the body is never evaluated.
    rfl

/-- Environments that agree on the free variables of a formula evaluate it alike, and
they still do so after everything else is unbound or after any variables are bound
anew that occur only under quantifiers that bind them, or not at all. -/
theorem evaluation_depends_on_freeVariables (formula : Formula) (first second : Environment)
    (agree : first.AgreesOn second formula.freeVariables) :
    formula.evaluateLogged first = formula.evaluateLogged second ∧
      formula.evaluateLogged (first.restrict formula.freeVariables) =
        formula.evaluateLogged second ∧
      ∀ bindings : List (Variable × Double),
        (∀ binding ∈ bindings, ¬ formula.OccursFree binding.1) →
          formula.evaluateLogged (first.insertAll bindings) = formula.evaluateLogged second := by
  refine ⟨formula.evaluateLogged_eq_of_agreesOn agree, ?_, ?_⟩
  · apply formula.evaluateLogged_eq_of_agreesOn
    intro v free
    rw [Environment.get?_restrict_of_mem free, agree v free]
  · intro bindings shielded
    apply formula.evaluateLogged_eq_of_agreesOn
    intro v free
    rw [Environment.get?_insertAll_of_notMem, agree v free]
    rintro binding mem rfl
    exact shielded binding mem (formula.mem_freeVariables_iff.mp free)

/-- A conjunction with a quantifier over the second variable.  The environments bind that
variable to a NaN and not at all, and binding it to one instead has no effect either. -/
theorem evaluation_depends_on_freeVariables_quantified :
    Environment.AgreesOn (.ofList [(⟨1⟩, ⟨0x7ff8000000000000⟩), (⟨0⟩, ⟨0⟩)]) (.ofList [(⟨0⟩, ⟨0⟩)])
        (junction .and (comparison .ge (.var ⟨0⟩) (.constant ⟨0⟩))
          (universal (.ofList [⟨1⟩]) (comparison .lt (.var ⟨1⟩) (.var ⟨0⟩)))).freeVariables ∧
      (junction .and (comparison .ge (.var ⟨0⟩) (.constant ⟨0⟩))
          (universal (.ofList [⟨1⟩]) (comparison .lt (.var ⟨1⟩) (.var ⟨0⟩)))).evaluateLogged
        (Environment.insertAll (.ofList [(⟨1⟩, ⟨0x7ff8000000000000⟩), (⟨0⟩, ⟨0⟩)])
          [(⟨1⟩, ⟨0x3ff0000000000000⟩)]) =
      (junction .and (comparison .ge (.var ⟨0⟩) (.constant ⟨0⟩))
          (universal (.ofList [⟨1⟩]) (comparison .lt (.var ⟨1⟩) (.var ⟨0⟩)))).evaluateLogged
        (.ofList [(⟨0⟩, ⟨0⟩)]) := by
  have agree : Environment.AgreesOn (.ofList [(⟨1⟩, ⟨0x7ff8000000000000⟩), (⟨0⟩, ⟨0⟩)])
      (.ofList [(⟨0⟩, ⟨0⟩)])
      (junction .and (comparison .ge (.var ⟨0⟩) (.constant ⟨0⟩))
        (universal (.ofList [⟨1⟩]) (comparison .lt (.var ⟨1⟩) (.var ⟨0⟩)))).freeVariables := by
    decide +kernel
  refine ⟨agree, (evaluation_depends_on_freeVariables _ _ _ agree).2.2 _ ?_⟩
  intro binding mem
  rw [List.mem_singleton.mp mem, ← mem_freeVariables_iff]
  decide +kernel

end Formula

end FloatLogic
