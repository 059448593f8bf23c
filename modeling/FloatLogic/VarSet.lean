import FloatLogic.Variable

/-!
# Finite sets of variables

A set is the list of its members in strictly increasing order.  The list is
determined by the membership, so equal sets are equal values however they were
built.
-/

namespace FloatLogic

/-- A finite set of variables, listed in strictly increasing order. -/
structure VarSet where
  toList : List Variable
  ordered : toList.Pairwise (· < ·)
deriving DecidableEq

namespace VarSet

/-! ## Ordered lists -/

/-- Insert a variable at its place in an ordered list, unless it is there. -/
def insertOrdered (v : Variable) : List Variable → List Variable
  | [] => [v]
  | member :: rest =>
    if v < member then v :: member :: rest
    else if member < v then member :: insertOrdered v rest
    else member :: rest

@[simp]
theorem mem_insertOrdered {v other : Variable} {members : List Variable} :
    other ∈ insertOrdered v members ↔ other = v ∨ other ∈ members := by
  induction members with
  | nil => simp [insertOrdered]
  | cons member rest inductionHypothesis =>
    simp only [insertOrdered]
    split
    · simp
    · split
      · simp only [List.mem_cons, inductionHypothesis]
        exact or_left_comm
      · rename_i notBelow notAbove
        rw [Variable.eq_of_not_lt notBelow notAbove]
        simp

theorem ordered_insertOrdered {v : Variable} {members : List Variable}
    (ordered : members.Pairwise (· < ·)) :
    (insertOrdered v members).Pairwise (· < ·) := by
  induction members with
  | nil => simp [insertOrdered]
  | cons member rest inductionHypothesis =>
    obtain ⟨memberBelow, restOrdered⟩ := List.pairwise_cons.mp ordered
    simp only [insertOrdered]
    split
    · rename_i below
      refine List.pairwise_cons.mpr ⟨fun other otherMem => ?_, ordered⟩
      rcases List.mem_cons.mp otherMem with rfl | otherMem
      · exact below
      · exact Variable.lt_trans below (memberBelow other otherMem)
    · split
      · rename_i above
        refine List.pairwise_cons.mpr ⟨fun other otherMem => ?_, inductionHypothesis restOrdered⟩
        rcases mem_insertOrdered.mp otherMem with rfl | otherMem
        · exact above
        · exact memberBelow other otherMem
      · exact ordered

/-! ## Building and reading -/

/-- The set without members. -/
def empty : VarSet := ⟨[], List.Pairwise.nil⟩

instance : EmptyCollection VarSet := ⟨empty⟩

instance : Inhabited VarSet := ⟨empty⟩

instance : Membership Variable VarSet := ⟨fun set v => v ∈ set.toList⟩

theorem mem_def {v : Variable} {set : VarSet} :
    v ∈ set ↔ v ∈ set.toList := Iff.rfl

instance (v : Variable) (set : VarSet) : Decidable (v ∈ set) :=
  inferInstanceAs (Decidable (v ∈ set.toList))

/-- Whether a variable is a member. -/
def contains (set : VarSet) (v : Variable) : Bool := decide (v ∈ set)

/-- The number of members. -/
def size (set : VarSet) : Nat := set.toList.length

/-- Whether there are no members. -/
def isEmpty (set : VarSet) : Bool := set.toList.isEmpty

/-- Add one variable. -/
def insert (set : VarSet) (v : Variable) : VarSet :=
  ⟨insertOrdered v set.toList, ordered_insertOrdered set.ordered⟩

/-- Add one variable and tell whether it was absent. -/
def insertNew (set : VarSet) (v : Variable) : Bool × VarSet :=
  (!set.contains v, set.insert v)

/-- Add variables one by one. -/
def insertAll (set : VarSet) (members : List Variable) : VarSet :=
  members.foldl insert set

/-- The set of the listed variables. -/
def ofList (members : List Variable) : VarSet := empty.insertAll members

/-- The set with exactly one member. -/
def singleton (v : Variable) : VarSet := empty.insert v

/-- The members that satisfy a condition. -/
def filter (condition : Variable → Bool) (set : VarSet) : VarSet :=
  ⟨set.toList.filter condition, set.ordered.filter condition⟩

/-! ## Set algebra -/

/-- The members of either set. -/
def union (left right : VarSet) : VarSet :=
  left.toList.foldr (fun member set => set.insert member) right

instance : Union VarSet := ⟨union⟩

/-- Extend the left set by the right one, which is taken whole when the left set
is empty. -/
def absorb (left right : VarSet) : VarSet :=
  if left.isEmpty then right else left.insertAll right.toList

/-- The members of the left set that are not in the right one. -/
def diff (left right : VarSet) : VarSet := left.filter fun member => !right.contains member

instance : SDiff VarSet := ⟨diff⟩

/-- Whether every member of the left set is in the right one. -/
def isSubset (left right : VarSet) : Bool := left.toList.all right.contains

end VarSet

end FloatLogic
