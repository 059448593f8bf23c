import Std.Data.HashSet
import FloatLogic.Formula.Equality

/-!
# Sharing

A pool keeps one stored object for each of its values.  Whoever passes every new
node through a pool, operands first, gets one object for each tree; comparing
two such trees takes one step, since equal ones are one object and different
ones have different digests unless two digests collide.  Sharing changes no
value: `share_fst` says that the stored object equals the one that was passed.
-/

namespace FloatLogic

/-- Values that are stored once each. -/
structure Pool (α : Type) [BEq α] [Hashable α] where
  stored : Std.HashSet α := ∅

namespace Pool

variable {α : Type} [BEq α] [Hashable α]

/-- The stored object that equals a value, and the pool with the value stored. -/
def share (pool : Pool α) (value : α) : α × Pool α :=
  match pool.stored.get? value with
  | some stored => (stored, pool)
  | none => (value, ⟨pool.stored.insert value⟩)

theorem share_fst [LawfulBEq α] (pool : Pool α) (value : α) :
    (pool.share value).1 = value := by
  unfold share
  split
  · next stored found =>
    have same := Std.HashSet.get?_beq (m := pool.stored) (k := value)
    simpa [found] using same
  · rfl

theorem mem_share_snd [LawfulBEq α] [LawfulHashable α] (pool : Pool α) (value other : α) :
    other ∈ (pool.share value).2.stored ↔ value = other ∨ other ∈ pool.stored := by
  unfold share
  split
  · next stored found =>
    have present : value ∈ pool.stored := by
      rw [Std.HashSet.mem_iff_isSome_get?, found]
      rfl
    exact ⟨Or.inr, fun either => either.elim (fun same => same ▸ present) id⟩
  · simp

end Pool

end FloatLogic
