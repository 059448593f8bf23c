import FloatLogic.Proofs.Text.Words

/-!
# Texts can be read

A text determines the term or the formula that it was written for, up to the payloads
of NaNs.  The word before the first parenthesis or blank tells the kinds apart, and a
term or a formula is read up to its end from any text that it begins.  Only a
comparison and a junction begin alike: their left operands can have one text, such as
the variable named `True` and the truth value, and then the sign behind it tells which
it is.
-/

namespace FloatLogic

/-- The variables of two operands are among those of a set if those of their node are. -/
theorem VarSet.within_union {set left right : VarSet} (within : ∀ v ∈ left ∪ right, v ∈ set) :
    (∀ v ∈ left, v ∈ set) ∧ ∀ v ∈ right, v ∈ set := forall_mem_union.mp within

/-! ## Identified NaNs -/

/-- The term with all NaNs identified. -/
def Term.identifyNaNs : Term → Term
  | constant value => .constant value.identifyNaN
  | var v => .var v
  | neg operand => .neg operand.identifyNaNs
  | binary operation left right => .binary operation left.identifyNaNs right.identifyNaNs

/-- The formula with all NaNs identified. -/
def Formula.identifyNaNs : Formula → Formula
  | truth value => .truth value
  | comparison relation left right => .comparison relation left.identifyNaNs right.identifyNaNs
  | junction connective left right => .junction connective left.identifyNaNs right.identifyNaNs
  | negation operand => .negation operand.identifyNaNs
  | universal binders body => .universal binders body.identifyNaNs

/-! ## Terms -/

namespace Term

variable {names : Naming} {set : VarSet}

/-- The characters of a term. -/
def characters (names : Naming) (term : Term) : List Char := (term.text names).toList

/-- The word that a term begins with. -/
def word (names : Naming) : Term → List Char
  | constant value => value.text.toList
  | var v => (names v).toList
  | neg _ => ['-']
  | binary _ _ _ => []

/-- What follows the word that a term begins with. -/
def body (names : Naming) : Term → List Char
  | constant _ => []
  | var _ => []
  | neg operand => '(' :: (operand.characters names ++ [')'])
  | binary operation left right =>
    pairCharacters (left.characters names) (.arithmetic operation) (right.characters names)

theorem begins (readable : names.Readable set) {term : Term}
    (within : ∀ v ∈ term.vars, v ∈ set) :
    Begins (term.characters names) (term.word names) (term.body names) where
  characters_eq := by
    cases term <;> simp [characters, word, body, text, pairCharacters, PairSign.characters]
  inWord := by
    intro character member
    cases term with
    | constant value =>
      rcases Double.mem_toList_text_cases member with isDigit | mark
      · exact isInWord_of_isDigit isDigit
      · exact List.all_eq_true.mp (by decide) character mark
    | var v =>
      have identifier := readable.identifiers v (within v (VarSet.mem_singleton.mpr rfl))
      exact isInWord_of_isWordCharacter
        ((isIdentifier_eq_true_iff.mp identifier).2.1 character member)
    | neg operand =>
      obtain rfl := List.mem_singleton.mp member
      decide
    | binary operation left right => cases member
  ends closed := by
    cases term with
    | constant value => exact closed.ends
    | var v => exact closed.ends
    | neg operand => exact ends_cons_iff.mpr (by decide)
    | binary operation left right => exact ends_cons_iff.mpr (by decide)

/-- A term that a text begins with is read up to its end. -/
theorem reads (readable : names.Readable set) (first second : Term)
    (firstWithin : ∀ v ∈ first.vars, v ∈ set) (secondWithin : ∀ v ∈ second.vars, v ∈ set) :
    Reads (first.identifyNaNs = second.identifyNaNs) (first.characters names)
      (second.characters names) := by
  -- The words tell the kinds apart, except that a constant or a variable is told from the
  -- other two kinds by what follows it, which does not open a parenthesis.
  induction first generalizing second with
  | constant value =>
    intro rest others closed othersClosed same
    obtain ⟨sameWord, sameBody⟩ :=
      (begins readable firstWithin).inj (begins readable secondWithin) closed othersClosed same
    cases second with
    | constant other =>
      have sameNumber := Double.text_eq_iff.mp (String.toList_inj.mp sameWord)
      exact ⟨congrArg Term.constant sameNumber, sameBody⟩
    | var w =>
      have identifier := readable.identifiers w (secondWithin w (VarSet.mem_singleton.mpr rfl))
      exact absurd sameWord (value.text_ne_of_isIdentifier identifier)
    | neg other => exact absurd closed (not_closed_of_eq sameBody)
    | binary operation left right => exact absurd closed (not_closed_of_eq sameBody)
  | var v =>
    intro rest others closed othersClosed same
    obtain ⟨sameWord, sameBody⟩ :=
      (begins readable firstWithin).inj (begins readable secondWithin) closed othersClosed same
    have vWithin := firstWithin v (VarSet.mem_singleton.mpr rfl)
    cases second with
    | constant other =>
      exact absurd sameWord.symm (other.text_ne_of_isIdentifier (readable.identifiers v vWithin))
    | var w =>
      have wWithin := secondWithin w (VarSet.mem_singleton.mpr rfl)
      have sameVariable :=
        readable.different v vWithin w wWithin (String.toList_inj.mp sameWord)
      exact ⟨congrArg Term.var sameVariable, sameBody⟩
    | neg other => exact absurd closed (not_closed_of_eq sameBody)
    | binary operation left right => exact absurd closed (not_closed_of_eq sameBody)
  | neg operand inductionHypothesis =>
    intro rest others closed othersClosed same
    obtain ⟨sameWord, sameBody⟩ :=
      (begins readable firstWithin).inj (begins readable secondWithin) closed othersClosed same
    cases second with
    | constant other => exact absurd othersClosed (not_closed_of_eq sameBody.symm)
    | var w => exact absurd othersClosed (not_closed_of_eq sameBody.symm)
    | neg other =>
      have readsOperand := inductionHypothesis other firstWithin secondWithin
      obtain ⟨sameOperand, sameRest⟩ :=
        (readsOperand.closing.cons '(') closed othersClosed sameBody
      exact ⟨congrArg Term.neg sameOperand, sameRest⟩
    | binary operation left right => cases sameWord
  | binary operation left right leftHypothesis rightHypothesis =>
    intro rest others closed othersClosed same
    obtain ⟨sameWord, sameBody⟩ :=
      (begins readable firstWithin).inj (begins readable secondWithin) closed othersClosed same
    cases second with
    | constant other => exact absurd othersClosed (not_closed_of_eq sameBody.symm)
    | var w => exact absurd othersClosed (not_closed_of_eq sameBody.symm)
    | neg other => cases sameWord
    | binary otherOperation otherLeft otherRight =>
      obtain ⟨leftWithin, rightWithin⟩ := VarSet.within_union firstWithin
      obtain ⟨otherLeftWithin, otherRightWithin⟩ := VarSet.within_union secondWithin
      have readsLeft := leftHypothesis otherLeft leftWithin otherLeftWithin
      have readsRight := rightHypothesis otherRight rightWithin otherRightWithin
      obtain ⟨⟨⟨sameLeft, sameSign⟩, sameRight⟩, sameRest⟩ :=
        readsLeft.pair (.arithmetic operation) (.arithmetic otherOperation) readsRight closed
          othersClosed sameBody
      cases sameSign
      rw [identifyNaNs, identifyNaNs, sameLeft, sameRight]
      exact ⟨rfl, sameRest⟩

end Term

/-! ## Formulas -/

namespace Formula

variable {names : Naming} {set : VarSet}

/-- The variables that are written in a formula, as operands or as binders. -/
def mentioned : Formula → VarSet
  | truth _ => ∅
  | comparison _ left right => left.vars ∪ right.vars
  | junction _ left right => left.mentioned ∪ right.mentioned
  | negation operand => operand.mentioned
  | universal binders body => binders ∪ body.mentioned

/-- The characters of a formula. -/
def characters (names : Naming) (formula : Formula) : List Char := (formula.text names).toList

/-- The word that a formula begins with. -/
def word : Formula → List Char
  | truth value => (truthText value).toList
  | comparison _ _ _ => []
  | junction _ _ _ => []
  | negation _ => ['!']
  | universal _ _ => ['f', 'o', 'r', 'a', 'l', 'l']

/-- What follows the word that a formula begins with. -/
def body (names : Naming) : Formula → List Char
  | truth _ => []
  | comparison relation left right =>
    pairCharacters (left.characters names) (.comparison relation) (right.characters names)
  | junction connective left right =>
    pairCharacters (left.characters names) (.junction connective) (right.characters names)
  | negation operand => '(' :: (operand.characters names ++ [')'])
  | universal binders body =>
    '(' :: ((binders.text names).toList ++ '.' :: ' ' :: (body.characters names ++ [')']))

theorem begins (names : Naming) (formula : Formula) :
    Begins (formula.characters names) formula.word (formula.body names) where
  characters_eq := by
    cases formula <;>
      simp [characters, word, body, text, pairCharacters, PairSign.characters, Term.characters]
  inWord := by
    rw [← List.all_eq_true]
    cases formula with
    | truth value => cases value <;> rfl
    | comparison relation left right => rfl
    | junction connective left right => rfl
    | negation operand => rfl
    | universal binders body => rfl
  ends closed := by
    cases formula with
    | truth value => exact closed.ends
    | comparison relation left right => exact ends_cons_iff.mpr (by decide)
    | junction connective left right => exact ends_cons_iff.mpr (by decide)
    | negation operand => exact ends_cons_iff.mpr (by decide)
    | universal binders body => exact ends_cons_iff.mpr (by decide)

/-- Only a truth value leaves nothing to open behind its word. -/
theorem eq_truth_of_closed {formula : Formula} {rest others : List Char} (closed : Closed rest)
    (same : rest = formula.body names ++ others) :
    (∃ value, formula = .truth value) ∧ rest = others := by
  cases formula with
  | truth value => exact ⟨⟨value, rfl⟩, same⟩
  | comparison relation left right => exact absurd closed (not_closed_of_eq same)
  | junction connective left right => exact absurd closed (not_closed_of_eq same)
  | negation operand => exact absurd closed (not_closed_of_eq same)
  | universal binders body => exact absurd closed (not_closed_of_eq same)

/-- If a text begins with a term and with a formula, the two have the same end. -/
theorem reads_of_term (readable : names.Readable set) (term : Term) (formula : Formula)
    (termWithin : ∀ v ∈ term.vars, v ∈ set) (formulaWithin : ∀ v ∈ formula.mentioned, v ∈ set) :
    Reads True (term.characters names) (formula.characters names) := by
  -- Only a variable can be written like a formula, which is then a truth value; an operation
  -- in parentheses has a sign that no formula has, behind a left operand read by induction.
  induction term generalizing formula with
  | constant value =>
    intro rest others closed othersClosed same
    obtain ⟨_, sameBody⟩ :=
      (Term.begins readable termWithin).inj (begins names formula) closed othersClosed same
    exact ⟨trivial, (eq_truth_of_closed closed sameBody).2⟩
  | var v =>
    intro rest others closed othersClosed same
    obtain ⟨_, sameBody⟩ :=
      (Term.begins readable termWithin).inj (begins names formula) closed othersClosed same
    exact ⟨trivial, (eq_truth_of_closed closed sameBody).2⟩
  | neg operand =>
    intro rest others closed othersClosed same
    obtain ⟨sameWord, sameBody⟩ :=
      (Term.begins readable termWithin).inj (begins names formula) closed othersClosed same
    cases formula with
    | truth value => exact absurd othersClosed (not_closed_of_eq sameBody.symm)
    | comparison relation left right => cases sameWord
    | junction connective left right => cases sameWord
    | negation operand => simp [Term.word, word] at sameWord
    | universal binders body => simp [Term.word, word] at sameWord
  | binary operation left right leftHypothesis _ =>
    intro rest others closed othersClosed same
    obtain ⟨sameWord, sameBody⟩ :=
      (Term.begins readable termWithin).inj (begins names formula) closed othersClosed same
    obtain ⟨leftWithin, _⟩ := VarSet.within_union termWithin
    cases formula with
    | truth value => exact absurd othersClosed (not_closed_of_eq sameBody.symm)
    | comparison relation otherLeft otherRight =>
      obtain ⟨otherLeftWithin, _⟩ := VarSet.within_union formulaWithin
      have readsLeft := Term.reads readable left otherLeft leftWithin otherLeftWithin
      cases (readsLeft.leftAndSign sameBody).1.2
    | junction connective otherLeft otherRight =>
      obtain ⟨otherLeftWithin, _⟩ := VarSet.within_union formulaWithin
      have readsLeft := leftHypothesis otherLeft leftWithin otherLeftWithin
      cases (readsLeft.leftAndSign sameBody).1.2
    | negation operand => cases sameWord
    | universal binders body => cases sameWord

/-- No text begins with a comparison and with a junction. -/
theorem comparison_ne_junction (readable : names.Readable set) {relation : Comparison}
    {left right : Term} {connective : Connective} {otherLeft otherRight : Formula}
    {rest others : List Char}
    (firstWithin : ∀ v ∈ (comparison relation left right).mentioned, v ∈ set)
    (secondWithin : ∀ v ∈ (junction connective otherLeft otherRight).mentioned, v ∈ set) :
    (comparison relation left right).body names ++ rest ≠
      (junction connective otherLeft otherRight).body names ++ others := by
  intro same
  have readsLeft := reads_of_term readable left otherLeft (VarSet.within_union firstWithin).1
    (VarSet.within_union secondWithin).1
  cases (readsLeft.leftAndSign same).1.2

theorem truthText_inj {first second : Bool}
    (same : (truthText first).toList = (truthText second).toList) : first = second := by
  cases first <;> cases second
  · rfl
  · exact absurd same (by decide)
  · exact absurd same (by decide)
  · rfl

/-- A formula that a text begins with is read up to its end. -/
theorem reads (readable : names.Readable set) (first second : Formula)
    (firstWithin : ∀ v ∈ first.mentioned, v ∈ set)
    (secondWithin : ∀ v ∈ second.mentioned, v ∈ set) :
    Reads (first.identifyNaNs = second.identifyNaNs) (first.characters names)
      (second.characters names) := by
  induction first generalizing second with
  | truth value =>
    intro rest others closed othersClosed same
    obtain ⟨sameWord, sameBody⟩ :=
      (begins names _).inj (begins names second) closed othersClosed same
    obtain ⟨⟨other, rfl⟩, sameRest⟩ := eq_truth_of_closed closed sameBody
    exact ⟨congrArg Formula.truth (truthText_inj sameWord), sameRest⟩
  | comparison relation left right =>
    intro rest others closed othersClosed same
    obtain ⟨sameWord, sameBody⟩ :=
      (begins names _).inj (begins names second) closed othersClosed same
    cases second with
    | truth other => exact absurd othersClosed (not_closed_of_eq sameBody.symm)
    | comparison otherRelation otherLeft otherRight =>
      obtain ⟨leftWithin, rightWithin⟩ := VarSet.within_union firstWithin
      obtain ⟨otherLeftWithin, otherRightWithin⟩ := VarSet.within_union secondWithin
      have readsLeft := Term.reads readable left otherLeft leftWithin otherLeftWithin
      have readsRight := Term.reads readable right otherRight rightWithin otherRightWithin
      obtain ⟨⟨⟨sameLeft, sameSign⟩, sameRight⟩, sameRest⟩ :=
        readsLeft.pair (.comparison relation) (.comparison otherRelation) readsRight closed
          othersClosed sameBody
      cases sameSign
      rw [identifyNaNs, identifyNaNs, sameLeft, sameRight]
      exact ⟨rfl, sameRest⟩
    | junction connective otherLeft otherRight =>
      exact absurd sameBody (comparison_ne_junction readable firstWithin secondWithin)
    | negation operand => cases sameWord
    | universal binders body => cases sameWord
  | junction connective left right leftHypothesis rightHypothesis =>
    intro rest others closed othersClosed same
    obtain ⟨sameWord, sameBody⟩ :=
      (begins names _).inj (begins names second) closed othersClosed same
    cases second with
    | truth other => exact absurd othersClosed (not_closed_of_eq sameBody.symm)
    | comparison relation otherLeft otherRight =>
      exact absurd sameBody.symm (comparison_ne_junction readable secondWithin firstWithin)
    | junction otherConnective otherLeft otherRight =>
      obtain ⟨leftWithin, rightWithin⟩ := VarSet.within_union firstWithin
      obtain ⟨otherLeftWithin, otherRightWithin⟩ := VarSet.within_union secondWithin
      have readsLeft := leftHypothesis otherLeft leftWithin otherLeftWithin
      have readsRight := rightHypothesis otherRight rightWithin otherRightWithin
      obtain ⟨⟨⟨sameLeft, sameSign⟩, sameRight⟩, sameRest⟩ :=
        readsLeft.pair (.junction connective) (.junction otherConnective) readsRight closed
          othersClosed sameBody
      cases sameSign
      rw [identifyNaNs, identifyNaNs, sameLeft, sameRight]
      exact ⟨rfl, sameRest⟩
    | negation operand => cases sameWord
    | universal binders body => cases sameWord
  | negation operand inductionHypothesis =>
    intro rest others closed othersClosed same
    obtain ⟨sameWord, sameBody⟩ :=
      (begins names _).inj (begins names second) closed othersClosed same
    cases second with
    | truth other => exact absurd othersClosed (not_closed_of_eq sameBody.symm)
    | comparison relation left right => cases sameWord
    | junction connective left right => cases sameWord
    | negation other =>
      have readsOperand := inductionHypothesis other firstWithin secondWithin
      obtain ⟨sameOperand, sameRest⟩ :=
        (readsOperand.closing.cons '(') closed othersClosed sameBody
      exact ⟨congrArg Formula.negation sameOperand, sameRest⟩
    | universal binders body => simp [word] at sameWord
  | universal binders body inductionHypothesis =>
    intro rest others closed othersClosed same
    obtain ⟨sameWord, sameBody⟩ :=
      (begins names _).inj (begins names second) closed othersClosed same
    cases second with
    | truth other => exact absurd othersClosed (not_closed_of_eq sameBody.symm)
    | comparison relation left right => cases sameWord
    | junction connective left right => cases sameWord
    | negation operand => simp [word] at sameWord
    | universal otherBinders otherBody =>
      obtain ⟨bindersWithin, bodyWithin⟩ := VarSet.within_union firstWithin
      obtain ⟨otherBindersWithin, otherBodyWithin⟩ := VarSet.within_union secondWithin
      have readsBody := inductionHypothesis otherBody bodyWithin otherBodyWithin
      rw [Formula.body, Formula.body, List.cons_append, List.cons_append, List.append_assoc,
        List.append_assoc] at sameBody
      obtain ⟨rfl, afterBinders⟩ := VarSet.text_append_inj readable bindersWithin
        otherBindersWithin (List.cons.inj sameBody).2
      obtain ⟨sameFormula, sameRest⟩ :=
        ((readsBody.closing.cons ' ').cons '.') closed othersClosed afterBinders
      exact ⟨congrArg (Formula.universal binders) sameFormula, sameRest⟩

end Formula

end FloatLogic
