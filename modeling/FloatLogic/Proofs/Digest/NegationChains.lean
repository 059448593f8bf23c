import FloatLogic.Proofs.Digest.Mixing
import FloatLogic.Proofs.Memory.Congruence
import Mathlib.Logic.Function.Iterate

/-!
# Digests of repeated negations

A negation has one operand, whose digest is the only word that is mixed into the hash
of its kind.  So the digests of two trees collide exactly if they collide under any
number of negations, whatever the leaf hash is: digests refute the equality of two long
chains of negations whenever they refute that of what the chains negate.

The negations of formulas are those of the folding constructor, which makes a node for
each of them unless a truth value is negated.
-/

namespace FloatLogic

variable {leaf : LeafHash}

/-! ## Nodes with one part -/

namespace LeafHash

/-- The digest of a node with one part determines the digest of the part. -/
theorem node_singleton_injective (leaf : LeafHash) (kind : Nat) :
    Function.Injective fun part => leaf.node kind [part] := by
  intro first second same
  have sameLast : leaf.node kind ([] ++ [first]) = leaf.node kind ([] ++ [second]) := same
  exact node_concat_inj.mp sameLast

/-- Trees that are put under equally many nodes of one kind have one digest exactly if
they have one digest by themselves. -/
theorem digest_iterate_eq_iff {α : Type} {digest : α → UInt64} {wrap : α → α} {kind : Nat}
    (mixed : Function.Semiconj digest wrap fun part => leaf.node kind [part]) (n : Nat)
    (first second : α) :
    digest (wrap^[n] first) = digest (wrap^[n] second) ↔ digest first = digest second := by
  rw [mixed.iterate_right n first, mixed.iterate_right n second]
  exact ((leaf.node_singleton_injective kind).iterate n).eq_iff

end LeafHash

/-! ## Terms -/

namespace Term

theorem semiconj_digestWith_neg :
    Function.Semiconj (digestWith leaf) Neg.neg fun part => leaf.node 2 [part] :=
  fun _ => rfl

/-- Terms under equally many negations have one digest exactly if the terms have. -/
theorem digestWith_iterate_neg_eq_iff (n : Nat) (first second : Term) :
    (Neg.neg^[n] first).digestWith leaf = (Neg.neg^[n] second).digestWith leaf ↔
      first.digestWith leaf = second.digestWith leaf :=
  LeafHash.digest_iterate_eq_iff semiconj_digestWith_neg n first second

end Term

/-! ## Formulas -/

namespace Formula

theorem semiconj_digestWith_negation :
    Function.Semiconj (digestWith leaf) negation fun part => leaf.node 10 [part] :=
  fun _ => rfl

/-- Formulas under equally many nodes of negations have one digest exactly if the
formulas have. -/
theorem digestWith_iterate_negation_eq_iff (n : Nat) (first second : Formula) :
    (negation^[n] first).digestWith leaf = (negation^[n] second).digestWith leaf ↔
      first.digestWith leaf = second.digestWith leaf :=
  LeafHash.digest_iterate_eq_iff semiconj_digestWith_negation n first second

theorem negate_eq_negation {operand : Formula} (isOpen : ∀ value, operand ≠ truth value) :
    operand.negate = negation operand := by
  cases operand with
  | truth value => exact absurd rfl (isOpen value)
  | comparison relation left right => rfl
  | junction connective left right => rfl
  | negation operand => rfl
  | universal binders body => rfl

/-- Negating a formula that is no truth value makes a node each time. -/
theorem iterate_negate_eq_iterate_negation {operand : Formula}
    (isOpen : ∀ value, operand ≠ truth value) (n : Nat) :
    negate^[n] operand = negation^[n] operand := by
  induction n with
  | zero => rfl
  | succ n inductionHypothesis =>
    rw [Function.iterate_succ_apply', Function.iterate_succ_apply', inductionHypothesis]
    apply negate_eq_negation
    intro value
    -- What is negated next is the operand itself or a negation.
    cases n with
    | zero => exact isOpen value
    | succ n =>
      rw [Function.iterate_succ_apply']
      simp

/-- Formulas that are no truth values have one digest when they are negated equally often
exactly if they have one digest before. -/
theorem digestWith_iterate_negate_eq_iff {first second : Formula}
    (firstOpen : ∀ value, first ≠ truth value) (secondOpen : ∀ value, second ≠ truth value)
    (n : Nat) :
    (negate^[n] first).digestWith leaf = (negate^[n] second).digestWith leaf ↔
      first.digestWith leaf = second.digestWith leaf := by
  rw [iterate_negate_eq_iterate_negation firstOpen, iterate_negate_eq_iterate_negation secondOpen]
  exact digestWith_iterate_negation_eq_iff n first second

end Formula

/-! ## Live objects -/

namespace Memory

variable {state : Reached leaf}

theorem LiveTerm.digest_eq (handle : LiveTerm state) :
    handle.object.header.digest = handle.object.tree.digestWith leaf :=
  state.sound.ofTerms.digests handle.object handle.live

theorem LiveFormula.digest_eq (handle : LiveFormula state) :
    handle.object.header.digest = handle.object.tree.digestWith leaf :=
  state.sound.ofFormulas.digests handle.object handle.live

end Memory

/-! ## Mixing -/

/-- Mixing loses nothing of the word that is mixed in.  Mixing into a seed is a
bijection, the words can be recovered from the states, and words that differ in the last
one only end in different states.  Under equally many negations two terms, and two
formulas that are no truth values, have one digest exactly if they have without them.
The digests are those that live objects keep in every memory that a run reaches. -/
theorem LeafHash.mixing_loses_nothing (leaf : LeafHash) :
    (∀ seed : UInt64, Function.Bijective (Digest.mix seed)) ∧
    (∀ (seed : UInt64) (words : List UInt64),
      Digest.recover seed (Digest.states seed words) = words ∧
        Digest.states seed (Digest.recover seed words) = words) ∧
    (∀ (seed : UInt64) (words : List UInt64) (first second : UInt64), first ≠ second →
      (Digest.states seed (words ++ [first])).getLast? ≠
        (Digest.states seed (words ++ [second])).getLast?) ∧
    (∀ (n : Nat) (first second : Term),
      (Neg.neg^[n] first).digestWith leaf = (Neg.neg^[n] second).digestWith leaf ↔
        first.digestWith leaf = second.digestWith leaf) ∧
    (∀ (n : Nat) (first second : Formula),
      (∀ value, first ≠ .truth value) → (∀ value, second ≠ .truth value) →
        Formula.negate^[n] first = Formula.negation^[n] first ∧
        ((Formula.negate^[n] first).digestWith leaf = (Formula.negate^[n] second).digestWith leaf ↔
          first.digestWith leaf = second.digestWith leaf)) ∧
    ∀ state : Memory.Reached leaf,
      (∀ handle : Memory.LiveTerm state,
        handle.object.header.digest = handle.object.tree.digestWith leaf) ∧
      ∀ handle : Memory.LiveFormula state,
        handle.object.header.digest = handle.object.tree.digestWith leaf := by
  refine ⟨Digest.mix_bijective,
    fun seed words => ⟨Digest.recover_states seed words, Digest.states_recover seed words⟩, ?_,
    Term.digestWith_iterate_neg_eq_iff, ?_,
    fun state => ⟨Memory.LiveTerm.digest_eq, Memory.LiveFormula.digest_eq⟩⟩
  · intro seed words first second different
    exact mt Digest.getLast?_states_concat_inj.mp different
  · intro n first second firstOpen secondOpen
    exact ⟨Formula.iterate_negate_eq_iterate_negation firstOpen n,
      Formula.digestWith_iterate_negate_eq_iff firstOpen secondOpen n⟩

/-- Two comparisons whose leaves have one hash have one digest after a hundred thousand
negations as well, and under the stored leaf hash both pairs are told apart. -/
theorem LeafHash.mixing_loses_nothing_collision :
    let first : Formula := .comparison .lt (.var ⟨0⟩) (.constant ⟨0x3ff0000000000000⟩)
    let second : Formula := .comparison .lt (.var ⟨1⟩) (.constant ⟨0x4000000000000000⟩)
    (∀ value, first ≠ .truth value) ∧ (∀ value, second ≠ .truth value) ∧
      (Formula.negate^[100000] first).digestWith Memory.zeroLeaf =
        (Formula.negate^[100000] second).digestWith Memory.zeroLeaf ∧
      (Formula.negate^[100000] first).digestWith .stored ≠
        (Formula.negate^[100000] second).digestWith .stored ∧
      (Digest.states 7 ([2, 3] ++ [5])).getLast? ≠ (Digest.states 7 ([2, 3] ++ [6])).getLast? := by
  intro first second
  have firstOpen : ∀ value, first ≠ .truth value := by simp [first]
  have secondOpen : ∀ value, second ≠ .truth value := by simp [second]
  obtain ⟨_, _, ends, _, _, _⟩ := mixing_loses_nothing .stored
  refine ⟨firstOpen, secondOpen, ?_, ?_, ends 7 [2, 3] 5 6 (by decide)⟩
  · have chains := (mixing_loses_nothing Memory.zeroLeaf).2.2.2.2.1
    exact (chains 100000 first second firstOpen secondOpen).2.mpr (by decide +kernel)
  · have chains := (mixing_loses_nothing .stored).2.2.2.2.1
    exact mt (chains 100000 first second firstOpen secondOpen).2.mp (by decide +kernel)

end FloatLogic
