import FloatLogic.Shortcut
import FloatLogic.Term

/-!
# Equality of terms

Two terms are compared through a list of pending pairs, so the comparison of
deep terms needs no deep recursion.  A pair is settled early when its two sides
are recognised as one object, and refuted early when their kinds or digests
differ.  `equalAll_eq_true_iff` says that no sound shortcut changes the answer.

`equal` also recognises one object at the root and among the operands of the
root.  Two new nodes over the same stored operands are thereby compared in one
step, however large the operands are.
-/

namespace FloatLogic.Term

/-- The total size of the left sides, which every step of a comparison lowers. -/
def pendingSize (pending : List (Term × Term)) : Nat :=
  pending.foldr (fun pair total => pair.1.nodeCount + total) 0

/-- Whether the two sides of every pending pair are the same term. -/
def equalAll (shortcut : Shortcut Term) : List (Term × Term) → Bool
  | [] => true
  | (first, second) :: pending =>
    if shortcut.recognised first second then equalAll shortcut pending
    else if first.kind ≠ second.kind then false
    else if shortcut.digest first ≠ shortcut.digest second then false
    else
      match first, second with
      | constant value, constant other =>
        if value = other then equalAll shortcut pending else false
      | var v, var w => if v = w then equalAll shortcut pending else false
      | neg operand, neg other => equalAll shortcut ((operand, other) :: pending)
      | binary _ left right, binary _ otherLeft otherRight =>
        equalAll shortcut ((left, otherLeft) :: (right, otherRight) :: pending)
      | _, _ => false
termination_by pending => pendingSize pending
decreasing_by
  · simp [pendingSize, nodeCount_pos]
  all_goals simp [pendingSize, nodeCount]
  all_goals omega

/-- A comparison with any sound shortcut answers exactly whether all pairs are
equal. -/
theorem equalAll_eq_true_iff {shortcut : Shortcut Term} (sound : shortcut.Sound)
    (pending : List (Term × Term)) :
    equalAll shortcut pending = true ↔ ∀ pair ∈ pending, pair.1 = pair.2 := by
  fun_induction equalAll shortcut pending with
  | case1 => simp
  | case2 first second pending same inductionHypothesis =>
    simp [inductionHypothesis, sound first second same]
  | case3 first second pending _ kinds =>
    have : first ≠ second := fun equal => kinds (equal ▸ rfl)
    simp [this]
  | case4 first second pending _ _ digests =>
    have : first ≠ second := fun equal => digests (equal ▸ rfl)
    simp [this]
  | case5 pending value _ _ _ inductionHypothesis => simpa using inductionHypothesis
  | case6 pending value other different => simp [different]
  | case7 pending v _ _ _ inductionHypothesis => simpa using inductionHypothesis
  | case8 pending v w different => simp [different]
  | case9 pending operand other _ _ _ inductionHypothesis => simpa using inductionHypothesis
  | case10 pending operation left right other otherLeft otherRight _ kinds _ inductionHypothesis =>
    have : operation = other := by simpa [kind] using kinds
    simp [inductionHypothesis, this, and_assoc]
  | case11 first second pending _ _ _ noConstants noVars noNegs noBinaries =>
    have : first ≠ second := by
      rintro rfl
      cases first with
      | constant value => exact noConstants value value rfl rfl
      | var v => exact noVars v v rfl rfl
      | neg operand => exact noNegs operand operand rfl rfl
      | binary operation left right =>
        exact noBinaries operation left right operation left right rfl rfl
    simp [this]

/-- Whether two terms are one object, or the same node by node. -/
def equalTree (first second : Term) : Bool :=
  withPtrEq first second
    (fun _ => equalAll (.byDigest digest) [(first, second)])
    (fun same => (equalAll_eq_true_iff (Shortcut.sound_byDigest digest) _).mpr (by simp [same]))

theorem equalTree_eq_true_iff {first second : Term} :
    first.equalTree second = true ↔ first = second := by
  simp [equalTree, withPtrEq, equalAll_eq_true_iff (Shortcut.sound_byDigest digest)]

/-- Whether the roots of two terms agree and their operands are the same. -/
def equalRoot : Term → Term → Bool
  | constant value, constant other => value = other
  | var v, var w => v = w
  | neg operand, neg other => operand.equalTree other
  | binary operation left right, binary otherOperation otherLeft otherRight =>
    operation = otherOperation && left.equalTree otherLeft && right.equalTree otherRight
  | _, _ => false

theorem equalRoot_eq_true_iff {first second : Term} :
    first.equalRoot second = true ↔ first = second := by
  cases first <;> cases second <;> simp [equalRoot, equalTree_eq_true_iff, and_assoc]

/-- Whether two terms are the same. -/
def equal (first second : Term) : Bool :=
  withPtrEq first second
    (fun _ => first.digest = second.digest && first.equalRoot second)
    (fun same => by simp [same, equalRoot_eq_true_iff])

theorem equal_eq_true_iff {first second : Term} : first.equal second = true ↔ first = second := by
  simp only [equal, withPtrEq, Bool.and_eq_true, decide_eq_true_eq, equalRoot_eq_true_iff]
  exact ⟨And.right, fun same => ⟨congrArg digest same, same⟩⟩

instance : DecidableEq Term := fun _ _ => decidable_of_iff _ equal_eq_true_iff

instance : Hashable Term := ⟨digest⟩

end FloatLogic.Term
