import FloatLogic.Formula
import FloatLogic.Term.Equality

/-!
# Equality of formulas

Formulas are compared like terms, through a list of pending pairs; the terms of
a comparison and the binders of a quantifier are compared in place.
`equalAll_eq_true_iff` says that no sound shortcut changes the answer.  `equal`
recognises one object at the root and among the operands of the root.
-/

namespace FloatLogic.Formula

/-- The total size of the left sides, which every step of a comparison lowers. -/
def pendingSize (pending : List (Formula × Formula)) : Nat :=
  pending.foldr (fun pair total => pair.1.nodeCount + total) 0

/-- Whether the two sides of every pending pair are the same formula. -/
def equalAll (terms : Shortcut Term) (shortcut : Shortcut Formula) :
    List (Formula × Formula) → Bool
  | [] => true
  | (first, second) :: pending =>
    if shortcut.recognised first second then equalAll terms shortcut pending
    else if first.kind ≠ second.kind then false
    else if shortcut.digest first ≠ shortcut.digest second then false
    else
      match first, second with
      | truth _, truth _ => equalAll terms shortcut pending
      | comparison _ left right, comparison _ otherLeft otherRight =>
        if Term.equalAll terms [(left, otherLeft), (right, otherRight)] then
          equalAll terms shortcut pending
        else
          false
      | junction _ left right, junction _ otherLeft otherRight =>
        equalAll terms shortcut ((left, otherLeft) :: (right, otherRight) :: pending)
      | negation operand, negation other =>
        equalAll terms shortcut ((operand, other) :: pending)
      | universal binders body, universal otherBinders otherBody =>
        if binders = otherBinders then equalAll terms shortcut ((body, otherBody) :: pending)
        else false
      | _, _ => false
termination_by pending => pendingSize pending
decreasing_by
  · simp [pendingSize, nodeCount_pos]
  all_goals simp [pendingSize, nodeCount]
  all_goals omega

/-- A comparison with sound shortcuts answers exactly whether all pairs are
equal. -/
theorem equalAll_eq_true_iff {terms : Shortcut Term} {shortcut : Shortcut Formula}
    (soundTerms : terms.Sound) (sound : shortcut.Sound) (pending : List (Formula × Formula)) :
    equalAll terms shortcut pending = true ↔ ∀ pair ∈ pending, pair.1 = pair.2 := by
  fun_induction equalAll terms shortcut pending with
  | case1 => simp
  | case2 first second pending same inductionHypothesis =>
    simp [inductionHypothesis, sound first second same]
  | case3 first second pending _ kinds =>
    have : first ≠ second := fun equal => kinds (equal ▸ rfl)
    simp [this]
  | case4 first second pending _ _ digests =>
    have : first ≠ second := fun equal => digests (equal ▸ rfl)
    simp [this]
  | case5 pending value other _ kinds _ inductionHypothesis =>
    have : value = other := by simpa [kind] using kinds
    simpa [this] using inductionHypothesis
  | case6 pending relation left right other otherLeft otherRight same _ kinds _
      inductionHypothesis =>
    have : relation = other := by simpa [kind] using kinds
    have : left = otherLeft ∧ right = otherRight := by
      simpa using (Term.equalAll_eq_true_iff soundTerms _).mp same
    simp_all
  | case7 pending relation left right other otherLeft otherRight different =>
    have : comparison relation left right ≠ comparison other otherLeft otherRight := by
      intro same
      simp only [comparison.injEq] at same
      exact different ((Term.equalAll_eq_true_iff soundTerms _).mpr (by simpa using same.2))
    simp [this]
  | case8 pending connective left right other otherLeft otherRight _ kinds _
      inductionHypothesis =>
    have : connective = other := by simpa [kind] using kinds
    simp [inductionHypothesis, this, and_assoc]
  | case9 pending operand other _ _ _ inductionHypothesis => simpa using inductionHypothesis
  | case10 pending binders body otherBody _ _ _ inductionHypothesis =>
    simpa using inductionHypothesis
  | case11 pending binders body otherBinders otherBody different => simp [different]
  | case12 first second pending _ _ _ noTruths noComparisons noJunctions noNegations
      noUniversals =>
    have : first ≠ second := by
      rintro rfl
      cases first with
      | truth value => exact noTruths value value rfl rfl
      | comparison relation left right =>
        exact noComparisons relation left right relation left right rfl rfl
      | junction connective left right =>
        exact noJunctions connective left right connective left right rfl rfl
      | negation operand => exact noNegations operand operand rfl rfl
      | universal binders body => exact noUniversals binders body binders body rfl rfl
    simp [this]

/-- Whether two formulas are one object, or the same node by node. -/
def equalTree (first second : Formula) : Bool :=
  withPtrEq first second
    (fun _ => equalAll (.byDigest Term.digest) (.byDigest digest) [(first, second)])
    (fun same => (equalAll_eq_true_iff (Shortcut.sound_byDigest Term.digest)
      (Shortcut.sound_byDigest digest) _).mpr (by simp [same]))

theorem equalTree_eq_true_iff {first second : Formula} :
    first.equalTree second = true ↔ first = second := by
  simp [equalTree, withPtrEq, equalAll_eq_true_iff (Shortcut.sound_byDigest Term.digest)
    (Shortcut.sound_byDigest digest)]

/-- Whether the roots of two formulas agree and their operands are the same. -/
def equalRoot : Formula → Formula → Bool
  | truth value, truth other => value = other
  | comparison relation left right, comparison otherRelation otherLeft otherRight =>
    relation = otherRelation && left.equalTree otherLeft && right.equalTree otherRight
  | junction connective left right, junction otherConnective otherLeft otherRight =>
    connective = otherConnective && left.equalTree otherLeft && right.equalTree otherRight
  | negation operand, negation other => operand.equalTree other
  | universal binders body, universal otherBinders otherBody =>
    binders = otherBinders && body.equalTree otherBody
  | _, _ => false

theorem equalRoot_eq_true_iff {first second : Formula} :
    first.equalRoot second = true ↔ first = second := by
  cases first <;> cases second <;>
    simp [equalRoot, equalTree_eq_true_iff, Term.equalTree_eq_true_iff, and_assoc]

/-- Whether two formulas are the same. -/
def equal (first second : Formula) : Bool :=
  withPtrEq first second
    (fun _ => first.digest = second.digest && first.equalRoot second)
    (fun same => by simp [same, equalRoot_eq_true_iff])

theorem equal_eq_true_iff {first second : Formula} :
    first.equal second = true ↔ first = second := by
  simp only [equal, withPtrEq, Bool.and_eq_true, decide_eq_true_eq, equalRoot_eq_true_iff]
  exact ⟨And.right, fun same => ⟨congrArg digest same, same⟩⟩

instance : DecidableEq Formula := fun _ _ => decidable_of_iff _ equal_eq_true_iff

instance : Hashable Formula := ⟨digest⟩

end FloatLogic.Formula
