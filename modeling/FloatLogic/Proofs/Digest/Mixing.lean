import FloatLogic.Digest
import Mathlib.Data.LawfulXor.Basic
import Mathlib.Logic.Equiv.Defs

/-!
# What mixing keeps

A seed fixes what is added to a word that is mixed into it and which bits of the sum
are flipped, so mixing into a seed permutes the words.  The successive states of a seed
therefore determine all words that were mixed in, and the last state determines the
last word if the words before it are known.  Nothing of the kind is claimed of the seed.
-/

namespace FloatLogic

namespace Digest

/-! ## One word -/

/-- The word that mixes a seed into a state. -/
def unmix (seed state : UInt64) : UInt64 :=
  (seed ^^^ state) - (seed >>> (2 : UInt64)) - (seed <<< (6 : UInt64)) -
    (0x9e3779b97f4a7c15 : UInt64)

theorem unmix_mix (seed word : UInt64) : unmix seed (mix seed word) = word := by
  rw [unmix, mix, xor_cancel_left, UInt64.add_sub_cancel, UInt64.add_sub_cancel,
    UInt64.add_sub_cancel]

theorem mix_unmix (seed state : UInt64) : mix seed (unmix seed state) = state := by
  rw [unmix, mix, UInt64.sub_add_cancel, UInt64.sub_add_cancel, UInt64.sub_add_cancel,
    xor_cancel_left]

/-- Mixing into a seed is a permutation of the words. -/
def mixEquiv (seed : UInt64) : UInt64 ≃ UInt64 where
  toFun := mix seed
  invFun := unmix seed
  left_inv := unmix_mix seed
  right_inv := mix_unmix seed

theorem mix_bijective (seed : UInt64) : Function.Bijective (mix seed) :=
  (mixEquiv seed).bijective

/-! ## Lists of words -/

/-- The words that lead a seed through states. -/
def recover (seed : UInt64) : List UInt64 → List UInt64
  | [] => []
  | state :: rest => unmix seed state :: recover state rest

/-- The states of a seed determine all words that were mixed in. -/
theorem recover_states (seed : UInt64) (words : List UInt64) :
    recover seed (states seed words) = words := by
  induction words generalizing seed with
  | nil => rfl
  | cons word rest inductionHypothesis =>
    rw [states, recover, unmix_mix, inductionHypothesis]

/-- Every list of words is the states of a seed for some words. -/
theorem states_recover (seed : UInt64) (observed : List UInt64) :
    states seed (recover seed observed) = observed := by
  induction observed generalizing seed with
  | nil => rfl
  | cons state rest inductionHypothesis =>
    rw [recover, states, mix_unmix, inductionHypothesis]

theorem states_append (seed : UInt64) (front back : List UInt64) :
    states seed (front ++ back) = states seed front ++ states (mixAll seed front) back := by
  induction front generalizing seed with
  | nil => rfl
  | cons word rest inductionHypothesis =>
    rw [List.cons_append, states, states, inductionHypothesis, List.cons_append]
    rfl

theorem mixAll_concat (seed : UInt64) (words : List UInt64) (last : UInt64) :
    mixAll seed (words ++ [last]) = mix (mixAll seed words) last := by
  rw [mixAll, List.foldl_append]
  rfl

/-- The last state is what mixing in all words gives. -/
theorem getLast?_states_concat (seed : UInt64) (words : List UInt64) (last : UInt64) :
    (states seed (words ++ [last])).getLast? = some (mixAll seed (words ++ [last])) := by
  rw [states_append, mixAll_concat]
  exact List.getLast?_concat

/-- Words that differ in the last one only are mixed to different states. -/
theorem mixAll_concat_inj {seed : UInt64} {words : List UInt64} {first second : UInt64} :
    mixAll seed (words ++ [first]) = mixAll seed (words ++ [second]) ↔ first = second := by
  rw [mixAll_concat, mixAll_concat]
  exact (mix_bijective _).injective.eq_iff

theorem getLast?_states_concat_inj {seed : UInt64} {words : List UInt64} {first second : UInt64} :
    (states seed (words ++ [first])).getLast? = (states seed (words ++ [second])).getLast? ↔
      first = second := by
  rw [getLast?_states_concat, getLast?_states_concat, Option.some.injEq]
  exact mixAll_concat_inj

end Digest

/-! ## Nodes -/

/-- The digest of a node determines the digest of its last part, if the parts before it
are known. -/
theorem LeafHash.node_concat_inj {leaf : LeafHash} {kind : Nat} {parts : List UInt64}
    {first second : UInt64} :
    leaf.node kind (parts ++ [first]) = leaf.node kind (parts ++ [second]) ↔ first = second :=
  Digest.mixAll_concat_inj

end FloatLogic
