import FloatLogic.Formula.Equality
import FloatLogic.Proofs.Text.Reading

/-!
# Texts are different

Two terms or formulas over readable names have one text exactly if they are equal
after all NaNs are identified, since all NaNs have one text.  Without NaNs, equality
of texts is equality.
-/

namespace FloatLogic

/-! ## Terms and formulas without NaNs -/

namespace Term

/-- No constant is a NaN. -/
def NaNFree : Term → Prop
  | constant value => value.isNaN = false
  | var _ => True
  | neg operand => operand.NaNFree
  | binary _ left right => left.NaNFree ∧ right.NaNFree

theorem identifyNaNs_eq_self {term : Term} (free : term.NaNFree) : term.identifyNaNs = term := by
  induction term with
  | constant value => rw [identifyNaNs, Double.identifyNaN_eq_self free]
  | var v => rfl
  | neg operand inductionHypothesis => rw [identifyNaNs, inductionHypothesis free]
  | binary operation left right leftHypothesis rightHypothesis =>
    rw [identifyNaNs, leftHypothesis free.1, rightHypothesis free.2]

theorem text_identifyNaNs (names : Naming) (term : Term) :
    term.identifyNaNs.text names = term.text names := by
  induction term with
  | constant value => exact Double.text_identifyNaN value
  | var v => rfl
  | neg operand inductionHypothesis => rw [identifyNaNs, text, text, inductionHypothesis]
  | binary operation left right leftHypothesis rightHypothesis =>
    rw [identifyNaNs, text, text, leftHypothesis, rightHypothesis]

/-- Terms over readable names have one text exactly if identifying all NaNs makes them
one term. -/
theorem text_eq_iff_identifyNaNs {names : Naming} {first second : Term}
    (readable : names.Readable (first.vars ∪ second.vars)) :
    first.text names = second.text names ↔ first.identifyNaNs = second.identifyNaNs := by
  constructor
  · intro same
    have characters : first.characters names ++ [] = second.characters names ++ [] :=
      congrArg (String.toList · ++ []) same
    obtain ⟨firstWithin, secondWithin⟩ :=
      VarSet.within_union fun v (member : v ∈ first.vars ∪ second.vars) => member
    exact (reads readable first second firstWithin secondWithin closed_nil closed_nil
      characters).1
  · intro same
    rw [← text_identifyNaNs names first, same, text_identifyNaNs]

end Term

namespace Formula

/-- No constant is a NaN. -/
def NaNFree : Formula → Prop
  | truth _ => True
  | comparison _ left right => left.NaNFree ∧ right.NaNFree
  | junction _ left right => left.NaNFree ∧ right.NaNFree
  | negation operand => operand.NaNFree
  | universal _ body => body.NaNFree

theorem identifyNaNs_eq_self {formula : Formula} (free : formula.NaNFree) :
    formula.identifyNaNs = formula := by
  induction formula with
  | truth value => rfl
  | comparison relation left right =>
    rw [identifyNaNs, Term.identifyNaNs_eq_self free.1, Term.identifyNaNs_eq_self free.2]
  | junction connective left right leftHypothesis rightHypothesis =>
    rw [identifyNaNs, leftHypothesis free.1, rightHypothesis free.2]
  | negation operand inductionHypothesis => rw [identifyNaNs, inductionHypothesis free]
  | universal binders body inductionHypothesis => rw [identifyNaNs, inductionHypothesis free]

theorem text_identifyNaNs (names : Naming) (formula : Formula) :
    formula.identifyNaNs.text names = formula.text names := by
  induction formula with
  | truth value => rfl
  | comparison relation left right =>
    rw [identifyNaNs, text, text, Term.text_identifyNaNs, Term.text_identifyNaNs]
  | junction connective left right leftHypothesis rightHypothesis =>
    rw [identifyNaNs, text, text, leftHypothesis, rightHypothesis]
  | negation operand inductionHypothesis => rw [identifyNaNs, text, text, inductionHypothesis]
  | universal binders body inductionHypothesis =>
    rw [identifyNaNs, text, text, inductionHypothesis]

/-- Formulas over readable names have one text exactly if identifying all NaNs makes
them one formula. -/
theorem text_eq_iff_identifyNaNs {names : Naming} {first second : Formula}
    (readable : names.Readable (first.mentioned ∪ second.mentioned)) :
    first.text names = second.text names ↔ first.identifyNaNs = second.identifyNaNs := by
  constructor
  · intro same
    have characters : first.characters names ++ [] = second.characters names ++ [] :=
      congrArg (String.toList · ++ []) same
    obtain ⟨firstWithin, secondWithin⟩ :=
      VarSet.within_union fun v (member : v ∈ first.mentioned ∪ second.mentioned) => member
    exact (reads readable first second firstWithin secondWithin closed_nil closed_nil
      characters).1
  · intro same
    rw [← text_identifyNaNs names first, same, text_identifyNaNs]

end Formula

/-! ## Equality of texts -/

/-- Terms and formulas whose variables have different identifiers as names have one
text exactly if they are equal after all NaNs are identified; without NaNs, if they are
equal. -/
theorem text_eq_iff_equal (names : Naming) :
    (∀ first second : Formula, names.Readable (first.mentioned ∪ second.mentioned) →
      (first.text names = second.text names ↔
        first.identifyNaNs.equal second.identifyNaNs = true) ∧
      (first.NaNFree → second.NaNFree →
        (first.text names = second.text names ↔ first.equal second = true))) ∧
    ∀ first second : Term, names.Readable (first.vars ∪ second.vars) →
      (first.text names = second.text names ↔
        first.identifyNaNs.equal second.identifyNaNs = true) ∧
      (first.NaNFree → second.NaNFree →
        (first.text names = second.text names ↔ first.equal second = true)) := by
  constructor
  · intro first second readable
    have reads := Formula.text_eq_iff_identifyNaNs readable
    constructor
    · rw [reads, Formula.equal_eq_true_iff]
    · intro firstFree secondFree
      rw [reads, Formula.identifyNaNs_eq_self firstFree, Formula.identifyNaNs_eq_self secondFree,
        Formula.equal_eq_true_iff]
  · intro first second readable
    have reads := Term.text_eq_iff_identifyNaNs readable
    constructor
    · rw [reads, Term.equal_eq_true_iff]
    · intro firstFree secondFree
      rw [reads, Term.identifyNaNs_eq_self firstFree, Term.identifyNaNs_eq_self secondFree,
        Term.equal_eq_true_iff]

/-- The names `True` and `forall` can be read: a comparison of the two variables is told
from a conjunction of a truth value, and NaNs with different payloads have one text. -/
theorem text_eq_iff_equal_words :
    Naming.Readable (fun v => if v.id = 0 then "True" else "forall") (.ofList [⟨0⟩, ⟨1⟩]) ∧
    (Formula.comparison .eq (.var ⟨0⟩) (.var ⟨1⟩)).text
        (fun v => if v.id = 0 then "True" else "forall") ≠
      (Formula.junction .and (.truth true) (.comparison .eq (.var ⟨0⟩) (.var ⟨1⟩))).text
        (fun v => if v.id = 0 then "True" else "forall") ∧
    (Term.neg (.constant ⟨0x7ff8000000000000⟩)).text
        (fun v => if v.id = 0 then "True" else "forall") =
      (Term.neg (.constant ⟨0xfff0000000000001⟩)).text
        (fun v => if v.id = 0 then "True" else "forall") := by
  refine ⟨by decide +kernel, ?_, ?_⟩
  · intro same
    have readable : Naming.Readable (fun v => if v.id = 0 then "True" else "forall")
        ((Formula.comparison .eq (.var ⟨0⟩) (.var ⟨1⟩)).mentioned ∪
          (Formula.junction .and (.truth true)
            (.comparison .eq (.var ⟨0⟩) (.var ⟨1⟩))).mentioned) := by decide +kernel
    have equal := (((text_eq_iff_equal _).1 _ _ readable).2 ⟨trivial, trivial⟩
      ⟨trivial, trivial, trivial⟩).mp same
    cases Formula.equal_eq_true_iff.mp equal
  · have readable : Naming.Readable (fun v => if v.id = 0 then "True" else "forall")
        ((Term.neg (.constant ⟨0x7ff8000000000000⟩)).vars ∪
          (Term.neg (.constant ⟨0xfff0000000000001⟩)).vars) := by decide +kernel
    refine ((text_eq_iff_equal _).2 _ _ readable).1.mpr (Term.equal_eq_true_iff.mpr ?_)
    have identified : Double.identifyNaN ⟨0x7ff8000000000000⟩ =
        Double.identifyNaN ⟨0xfff0000000000001⟩ := by decide +kernel
    exact congrArg (fun value => Term.neg (.constant value)) identified

end FloatLogic
