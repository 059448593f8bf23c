import FloatLogic.Grouping
import Mathlib.Data.List.Basic
import Mathlib.Data.List.Induction

/-!
# Groups are classes

Grouping asks of the values that equality is an equivalence relation and that equal
values have equal hashes; how the hash map stores them has no effect.  The groups of a
list are then the classes of its members, each listed once and in the order of the
first members.
-/

namespace FloatLogic.Group

variable {α : Type} [BEq α] {values : List α} {value other : α}

/-- The class of a value in a list: the position of its first member and the number of
its members. -/
def classOf (values : List α) (value : α) : Group :=
  ⟨values.findIdx (· == value), values.countP (· == value)⟩

/-- Groups are exactly the classes of the members of a list: every class is there with
its first member and its size, in the order of the first members, and nothing else
is. -/
structure AreClasses (values : List α) (groups : List Group) : Prop where
  mem_iff : ∀ group, group ∈ groups ↔ ∃ value ∈ values, group = classOf values value
  ordered : groups.Pairwise fun group next => group.first < next.first

theorem first_lt_length (found : values.any (· == value) = true) :
    (classOf values value).first < values.length :=
  List.findIdx_lt_length.mpr (List.any_eq_true.mp found)

/-- A value at the end that is equal to earlier ones is counted into their class. -/
theorem classOf_append_of_any (same : (other == value) = true)
    (found : values.any (· == value) = true) :
    classOf (values ++ [other]) value =
      { classOf values value with count := (classOf values value).count + 1 } := by
  have earlier : values.findIdx (· == value) < values.length := first_lt_length found
  simp [classOf, List.findIdx_append, earlier, same]

/-- A value at the end that is equal to no earlier one opens a class. -/
theorem classOf_append_of_not_any (same : (other == value) = true)
    (notFound : ¬ values.any (· == value) = true) :
    classOf (values ++ [other]) value = ⟨values.length, 1⟩ := by
  have none : ∀ member ∈ values, (member == value) = false := by simpa using notFound
  have position : values.findIdx (· == value) = values.length := List.findIdx_eq_length.mpr none
  have count : values.countP (· == value) = 0 := by simpa [List.countP_eq_zero] using none
  simp [classOf, List.findIdx_append, List.findIdx_cons, position, count, same]

/-- A value at the end has no effect on the classes that it is not in. -/
theorem classOf_append_of_ne (different : ¬ (other == value) = true)
    (found : values.any (· == value) = true) :
    classOf (values ++ [other]) value = classOf values value := by
  have earlier : values.findIdx (· == value) < values.length := first_lt_length found
  simp [classOf, List.findIdx_append, earlier, different]

/-- Equal values are equal to the same values. -/
theorem beq_funext [EquivBEq α] (same : (value == other) = true) : (· == value) = (· == other) :=
  funext fun _ => BEq.congr_right same

theorem classOf_congr [EquivBEq α] (same : (value == other) = true) :
    classOf values value = classOf values other := by
  rw [classOf, classOf, beq_funext same]

/-- Two equal values are one group. -/
theorem AreClasses.pair_mem [EquivBEq α] {first second : α} {groups : List Group}
    (classes : AreClasses [first, second] groups) (same : (first == second) = true) :
    ⟨0, 2⟩ ∈ groups := by
  refine (classes.mem_iff _).mpr ⟨first, List.mem_cons_self, ?_⟩
  simp [classOf, List.findIdx_cons, BEq.symm same]

/-! ## The hash map of a list -/

section

variable [Hashable α]

theorem tally_append (values : List α) (last : α) :
    tally (values ++ [last]) = add (tally values) (last, values.length) := by
  rw [tally, tally, List.zipIdx_append, List.foldl_append]
  simp

variable [EquivBEq α] [LawfulHashable α]

/-- The hash map holds the class of every member and nothing else. -/
theorem getElem?_tally (values : List α) (value : α) :
    (tally values)[value]? =
      if values.any (· == value) then some (classOf values value) else none := by
  induction values using List.reverseRec generalizing value with
  | nil => simp [tally]
  | append_singleton values last inductionHypothesis =>
    rw [tally_append, add, Std.HashMap.getElem?_alter]
    by_cases same : (last == value) = true
    · rw [if_pos same, inductionHypothesis, beq_funext same, classOf_congr same]
      by_cases found : values.any (· == value) = true
      · simp [found, same, classOf_append_of_any same found]
      · simp [found, same, classOf_append_of_not_any same found]
    · rw [if_neg same, inductionHypothesis]
      by_cases found : values.any (· == value) = true
      · simp [found, classOf_append_of_ne same found]
      · simp [found, same]

/-! ## The groups of a list -/

/-- A group is listed where the first member of its class stands. -/
theorem ofList_eq (values : List α) :
    ofList values = values.zipIdx.filterMap fun entry =>
      (some (classOf values entry.1)).filter fun group => group.first = entry.2 := by
  apply List.filterMap_congr
  rintro ⟨value, position⟩ stands
  have member : value ∈ values :=
    List.mem_of_getElem? (List.mem_zipIdx_iff_getElem?.mp stands)
  have found : values.any (· == value) = true :=
    List.any_eq_true.mpr ⟨value, member, BEq.rfl⟩
  rw [getElem?_tally, if_pos found]

/-- The groups of a list are the classes of its members. -/
theorem mem_ofList_iff {group : Group} :
    group ∈ ofList values ↔ ∃ value ∈ values, group = classOf values value := by
  rw [ofList_eq]
  simp only [List.mem_filterMap, Prod.exists, List.mem_zipIdx_iff_getElem?,
    Option.filter_eq_some_iff, Option.some.injEq, decide_eq_true_eq]
  constructor
  · rintro ⟨value, position, stands, isClass, _⟩
    exact ⟨value, List.mem_of_getElem? stands, isClass.symm⟩
  · rintro ⟨value, member, rfl⟩
    have below : values.findIdx (· == value) < values.length :=
      first_lt_length (List.any_eq_true.mpr ⟨value, member, BEq.rfl⟩)
    have same : (values[values.findIdx (· == value)] == value) = true :=
      List.findIdx_getElem (p := (· == value))
    exact ⟨values[values.findIdx (· == value)], values.findIdx (· == value),
      List.getElem?_eq_getElem below, classOf_congr same, rfl⟩

/-- The groups are in the order of their first members, so no class is listed
twice. -/
theorem ofList_ordered (values : List α) :
    (ofList values).Pairwise fun group next => group.first < next.first := by
  have positions : values.zipIdx.Pairwise fun entry next => entry.2 < next.2 := by
    rw [← List.pairwise_map, List.zipIdx_map_snd]
    exact List.pairwise_lt_range'
  rw [ofList_eq, List.pairwise_filterMap]
  refine positions.imp fun {entry next} before group isGroup later isLater => ?_
  simp only [Option.filter_eq_some_iff, decide_eq_true_eq] at isGroup isLater
  omega

theorem areClasses_ofList (values : List α) : AreClasses values (ofList values) where
  mem_iff _ := mem_ofList_iff
  ordered := ofList_ordered values

end

end FloatLogic.Group
