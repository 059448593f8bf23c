/-!
# Values with a log

A `Logged` value carries the records that were emitted while it was computed, in
the order of emission.
-/

namespace FloatLogic

/-- A value and the records emitted on the way to it, oldest first. -/
structure Logged (ρ α : Type) where
  value : α
  records : List ρ

namespace Logged

variable {ρ α β : Type}

/-- A value found in silence. -/
def silent (value : α) : Logged ρ α := ⟨value, []⟩

/-- Go on with the value and put the new records behind the old ones. -/
def andThen (first : Logged ρ α) (next : α → Logged ρ β) : Logged ρ β :=
  let second := next first.value
  ⟨second.value, first.records ++ second.records⟩

instance : Monad (Logged ρ) where
  pure := silent
  bind := andThen

@[simp]
theorem value_pure (value : α) : (pure value : Logged ρ α).value = value := rfl

@[simp]
theorem records_pure (value : α) : (pure value : Logged ρ α).records = [] := rfl

@[simp]
theorem value_bind (first : Logged ρ α) (next : α → Logged ρ β) :
    (first >>= next).value = (next first.value).value := rfl

@[simp]
theorem records_bind (first : Logged ρ α) (next : α → Logged ρ β) :
    (first >>= next).records = first.records ++ (next first.value).records := rfl

end Logged

end FloatLogic
