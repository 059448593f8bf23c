import Std.Data.HashMap

/-!
# Grouping equal values

A list is grouped by counting its values in a hash map.  A group is named by the
position of its first member, so the groups do not depend on how the values are
hashed.
-/

namespace FloatLogic

/-- A class of equal members of a list: where the first one stands, and how many
there are. -/
structure Group where
  first : Nat
  count : Nat
deriving DecidableEq

namespace Group

variable {α : Type} [BEq α] [Hashable α]

/-- Count the value at a position into its group. -/
def add (groups : Std.HashMap α Group) (entry : α × Nat) : Std.HashMap α Group :=
  groups.alter entry.1 fun
    | some group => some { group with count := group.count + 1 }
    | none => some ⟨entry.2, 1⟩

/-- The group of every value of a list. -/
def tally (values : List α) : Std.HashMap α Group := values.zipIdx.foldl add ∅

/-- The groups of a list, in the order of their first members. -/
def ofList (values : List α) : List Group :=
  let groups := tally values
  values.zipIdx.filterMap fun entry =>
    groups[entry.1]?.filter fun group => group.first = entry.2

end Group

end FloatLogic
