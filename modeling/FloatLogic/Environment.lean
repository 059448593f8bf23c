import FloatLogic.Double
import FloatLogic.VarSet

/-!
# Environments

An environment binds finitely many variables to numbers.  It is the list of its
bindings in strictly increasing order of the variables, so it is determined by
what it binds and not by the order in which it was filled.
-/

namespace FloatLogic

/-- A finite map from variables to numbers, listed in strictly increasing order
of the variables. -/
structure Environment where
  toList : List (Variable × Double)
  ordered : toList.Pairwise (·.1 < ·.1)
deriving DecidableEq

namespace Environment

/-! ## Ordered lists of bindings -/

/-- The value bound to a variable by the first binding for it. -/
def valueIn (v : Variable) : List (Variable × Double) → Option Double
  | [] => none
  | (bound, value) :: rest => if bound = v then some value else valueIn v rest

/-- Put a binding at its place in an ordered list, in place of an older one. -/
def insertOrdered (v : Variable) (value : Double) :
    List (Variable × Double) → List (Variable × Double)
  | [] => [(v, value)]
  | (bound, old) :: rest =>
    if v < bound then (v, value) :: (bound, old) :: rest
    else if bound < v then (bound, old) :: insertOrdered v value rest
    else (v, value) :: rest

theorem mem_insertOrdered {v : Variable} {value : Double} {binding : Variable × Double}
    {bindings : List (Variable × Double)} (mem : binding ∈ insertOrdered v value bindings) :
    binding = (v, value) ∨ binding ∈ bindings := by
  induction bindings with
  | nil => simpa [insertOrdered] using mem
  | cons first rest inductionHypothesis =>
    obtain ⟨bound, old⟩ := first
    simp only [insertOrdered] at mem
    split at mem
    · simpa using mem
    · split at mem
      · rcases List.mem_cons.mp mem with rfl | mem
        · simp
        · rcases inductionHypothesis mem with found | found <;> simp [found]
      · rcases List.mem_cons.mp mem with found | found <;> simp [found]

theorem ordered_insertOrdered {v : Variable} {value : Double}
    {bindings : List (Variable × Double)} (ordered : bindings.Pairwise (·.1 < ·.1)) :
    (insertOrdered v value bindings).Pairwise (·.1 < ·.1) := by
  induction bindings with
  | nil => simp [insertOrdered]
  | cons first rest inductionHypothesis =>
    obtain ⟨bound, old⟩ := first
    obtain ⟨boundBelow, restOrdered⟩ := List.pairwise_cons.mp ordered
    simp only [insertOrdered]
    split
    · rename_i below
      refine List.pairwise_cons.mpr ⟨fun other otherMem => ?_, ordered⟩
      rcases List.mem_cons.mp otherMem with rfl | otherMem
      · exact below
      · exact Variable.lt_trans below (boundBelow other otherMem)
    · split
      · rename_i above
        refine List.pairwise_cons.mpr ⟨fun other otherMem => ?_, inductionHypothesis restOrdered⟩
        rcases mem_insertOrdered otherMem with rfl | otherMem
        · exact above
        · exact boundBelow other otherMem
      · rename_i notBelow notAbove
        rw [Variable.eq_of_not_lt notBelow notAbove]
        exact List.pairwise_cons.mpr ⟨boundBelow, restOrdered⟩

/-! ## Building and reading -/

/-- The environment without bindings. -/
def empty : Environment := ⟨[], List.Pairwise.nil⟩

instance : EmptyCollection Environment := ⟨empty⟩

instance : Inhabited Environment := ⟨empty⟩

/-- The number bound to a variable, if it is bound. -/
def get? (environment : Environment) (v : Variable) : Option Double :=
  valueIn v environment.toList

/-- Whether a variable is bound. -/
def contains (environment : Environment) (v : Variable) : Bool :=
  (environment.get? v).isSome

/-- The number of bindings. -/
def size (environment : Environment) : Nat := environment.toList.length

/-- Whether nothing is bound. -/
def isEmpty (environment : Environment) : Bool := environment.toList.isEmpty

/-- Bind a variable, in place of an older binding for it. -/
def insert (environment : Environment) (v : Variable) (value : Double) : Environment :=
  ⟨insertOrdered v value environment.toList, ordered_insertOrdered environment.ordered⟩

/-- Bind a variable and give back the number it was bound to before. -/
def replace (environment : Environment) (v : Variable) (value : Double) :
    Option Double × Environment :=
  (environment.get? v, environment.insert v value)

/-- Insert bindings from first to last, so that a later one for the same variable
wins. -/
def insertAll (environment : Environment) (bindings : List (Variable × Double)) : Environment :=
  bindings.foldl (fun environment binding => environment.insert binding.1 binding.2) environment

/-- The environment of the listed bindings. -/
def ofList (bindings : List (Variable × Double)) : Environment := empty.insertAll bindings

/-- The bound variables. -/
def domain (environment : Environment) : VarSet where
  toList := environment.toList.map Prod.fst
  ordered := List.pairwise_map.mpr environment.ordered

/-- Whether every member of a set is bound. -/
def bindsAll (environment : Environment) (set : VarSet) : Bool :=
  set.toList.all environment.contains

/-- Whether two lists bind the same variables to numbers that are equal as
values. -/
def sameValues : List (Variable × Double) → List (Variable × Double) → Bool
  | [], [] => true
  | (first, value) :: rest, (second, other) :: otherRest =>
    first = second && value.equal other && sameValues rest otherRest
  | _, _ => false

/-- Whether two environments bind the same variables to numbers that are equal
as values: the two zeros agree, and a NaN agrees with nothing. -/
def equal (left right : Environment) : Bool := sameValues left.toList right.toList

end Environment

end FloatLogic
