import Mathlib.Data.Set.Function

/-!
# Objects in memory

An object has an address and keeps the digest that was computed when it was made.
Objects are never changed, so all that can be said of a memory is said of the set
of its objects: an object is in memory together with its parts, different objects
have different addresses, and a stored digest is the digest of what the object
stands for.
-/

namespace FloatLogic

/-- The address of an object and the digest that was computed when the object was
made. -/
structure Header where
  address : Nat
  digest : UInt64
deriving DecidableEq

variable {α : Type} {header : α → Header} {parts : α → List α} {digest : α → UInt64}
  {objects : Set α}

/-- What the objects of one sort in memory have in common. -/
structure Coherent (header : α → Header) (parts : α → List α) (digest : α → UInt64)
    (objects : Set α) : Prop where
  mem_of_mem_parts : ∀ object ∈ objects, ∀ part ∈ parts object, part ∈ objects
  addresses : objects.InjOn fun object => (header object).address
  digests : ∀ object ∈ objects, (header object).digest = digest object

namespace Coherent

theorem empty : Coherent header parts digest ∅ where
  mem_of_mem_parts := by simp
  addresses := by simp
  digests := by simp

/-- One address is one object. -/
theorem eq_of_address (coherent : Coherent header parts digest objects) {first second : α}
    (firstStored : first ∈ objects) (secondStored : second ∈ objects)
    (same : (header first).address = (header second).address) : first = second :=
  coherent.addresses firstStored secondStored same

/-- Some of the objects are coherent if they are in memory with their parts. -/
theorem mono (coherent : Coherent header parts digest objects) {fewer : Set α}
    (subset : fewer ⊆ objects) (closed : ∀ object ∈ fewer, ∀ part ∈ parts object, part ∈ fewer) :
    Coherent header parts digest fewer where
  mem_of_mem_parts := closed
  addresses := coherent.addresses.mono subset
  digests object stored := coherent.digests object (subset stored)

/-- A new object at a free address keeps the memory coherent. -/
theorem insert (coherent : Coherent header parts digest objects) {object : α}
    (partsStored : ∀ part ∈ parts object, part ∈ objects)
    (free : ∀ other ∈ objects, (header other).address ≠ (header object).address)
    (digestStored : (header object).digest = digest object) :
    Coherent header parts digest (insert object objects) where
  mem_of_mem_parts := by
    rintro other (rfl | stored) part isPart
    · exact Or.inr (partsStored part isPart)
    · exact Or.inr (coherent.mem_of_mem_parts other stored part isPart)
  addresses := by
    rintro first (rfl | firstStored) second (rfl | secondStored) same
    · rfl
    · exact absurd same.symm (free second secondStored)
    · exact absurd same (free first firstStored)
    · exact coherent.eq_of_address firstStored secondStored same
  digests := by
    rintro other (rfl | stored)
    · exact digestStored
    · exact coherent.digests other stored

end Coherent

end FloatLogic
