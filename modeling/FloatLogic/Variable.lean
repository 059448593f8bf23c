/-!
# Variables

A variable is its number; its name is for display only and is looked up in a
`Naming`.  Two variables may carry the same name and are still distinct.
-/

namespace FloatLogic

/-- A variable, identified by the number it was declared with. -/
structure Variable where
  id : Nat
deriving DecidableEq

namespace Variable

instance : Inhabited Variable := ⟨⟨0⟩⟩

/-- Variables are ordered as they were declared. -/
instance : Ord Variable := ⟨fun first second => compare first.id second.id⟩

instance : LT Variable := ⟨fun first second => first.id < second.id⟩

instance (first second : Variable) : Decidable (first < second) :=
  inferInstanceAs (Decidable (first.id < second.id))

theorem lt_def {first second : Variable} : first < second ↔ first.id < second.id := Iff.rfl

theorem lt_trans {first second third : Variable} (left : first < second)
    (right : second < third) : first < third :=
  Nat.lt_trans left right

theorem lt_irrefl (v : Variable) : ¬ v < v := Nat.lt_irrefl v.id

theorem ne_of_lt {first second : Variable} (below : first < second) : first ≠ second := by
  rintro rfl
  exact lt_irrefl first below

theorem eq_of_not_lt {first second : Variable} (left : ¬ first < second)
    (right : ¬ second < first) : first = second := by
  cases first
  cases second
  simp only [lt_def] at left right
  exact congrArg Variable.mk (by omega)

end Variable

/-- The display name of every variable. -/
abbrev Naming := Variable → String

/-- The names of the variables declared so far, in the order of declaration. -/
structure Scope where
  names : Array String

namespace Scope

/-- The scope without variables. -/
def empty : Scope := ⟨#[]⟩

/-- Declare one more variable. -/
def declare (scope : Scope) (name : String) : Variable × Scope :=
  (⟨scope.names.size⟩, ⟨scope.names.push name⟩)

/-- Declare variables from left to right. -/
def ofNames (names : List String) : Scope := ⟨names.toArray⟩

/-- How many variables are declared. -/
def size (scope : Scope) : Nat := scope.names.size

/-- The naming that a scope defines; a variable outside it has no name. -/
def naming (scope : Scope) : Naming := fun v => scope.names.getD v.id ""

end Scope

end FloatLogic
