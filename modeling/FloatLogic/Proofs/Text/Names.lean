import FloatLogic.Proofs.Double.DecimalText
import FloatLogic.Text
import FloatLogic.VarSet.Lemmas

/-!
# Names that can be read

The text of a formula can be read back if the names of its variables are different
identifiers.  An identifier is told from the text of a number by its first character,
but for `NaN` and `inf`, which are therefore no identifiers; the words `True` and
`forall` are.  A name ends before every other character, so a list of names in
braces can be read too.
-/

namespace FloatLogic

/-! ## Ends of a text -/

/-- A text does not go on with a character of some class. -/
def Ends (inside : Char → Bool) (rest : List Char) : Prop :=
  ∀ character ∈ rest.head?, inside character = false

@[simp]
theorem ends_cons_iff {inside : Char → Bool} {character : Char} {rest : List Char} :
    Ends inside (character :: rest) ↔ inside character = false := by
  simp [Ends]

theorem takeWhile_append_of_ends {inside : Char → Bool} {word rest : List Char}
    (areInside : ∀ character ∈ word, inside character = true) (ends : Ends inside rest) :
    (word ++ rest).takeWhile inside = word := by
  rw [List.takeWhile_append_of_pos areInside]
  cases rest with
  | nil => simp
  | cons character rest => simp [ends_cons_iff.mp ends]

/-- A word of one class of characters is read up to its end. -/
theorem append_inj_of_ends {inside : Char → Bool} {first second rest others : List Char}
    (firstInside : ∀ character ∈ first, inside character = true)
    (secondInside : ∀ character ∈ second, inside character = true) (ends : Ends inside rest)
    (othersEnd : Ends inside others) (same : first ++ rest = second ++ others) :
    first = second ∧ rest = others := by
  have words := congrArg (List.takeWhile inside) same
  rw [takeWhile_append_of_ends firstInside ends, takeWhile_append_of_ends secondInside othersEnd]
    at words
  subst words
  exact ⟨rfl, List.append_cancel_left same⟩

/-! ## Identifiers -/

/-- Whether a character can stand in an identifier. -/
def isWordCharacter (character : Char) : Bool := character.isAlphanum || character = '_'

/-- Whether a name is an identifier that is not the text of a number. -/
def isIdentifier (name : String) : Bool :=
  match name.toList with
  | [] => false
  | first :: rest =>
    !first.isDigit && (first :: rest).all isWordCharacter && name != "NaN" && name != "inf"

theorem isIdentifier_eq_true_iff {name : String} :
    isIdentifier name = true ↔
      (∃ first rest, name.toList = first :: rest ∧ first.isDigit = false) ∧
        (∀ character ∈ name.toList, isWordCharacter character = true) ∧
          name ≠ "NaN" ∧ name ≠ "inf" := by
  rw [isIdentifier]
  cases name.toList with
  | nil => simp
  | cons first rest => simp [and_assoc]

/-- The names of the variables in a set can be read: they are identifiers and
different. -/
structure Naming.Readable (names : Naming) (set : VarSet) : Prop where
  identifiers : ∀ v ∈ set, isIdentifier (names v) = true
  different : ∀ v ∈ set, ∀ w ∈ set, names v = names w → v = w

instance (names : Naming) (set : VarSet) : Decidable (names.Readable set) :=
  decidable_of_iff ((∀ v ∈ set.toList, isIdentifier (names v) = true) ∧
      ∀ v ∈ set.toList, ∀ w ∈ set.toList, names v = names w → v = w)
    ⟨fun both => ⟨both.1, both.2⟩, fun readable => ⟨readable.identifiers, readable.different⟩⟩

/-- The text of a number is not an identifier. -/
theorem Double.text_ne_of_isIdentifier (number : Double) {name : String}
    (identifier : isIdentifier name = true) : number.text.toList ≠ name.toList := by
  obtain ⟨⟨first, rest, characters, notDigit⟩, areWord, notNaN, notInfinite⟩ :=
    isIdentifier_eq_true_iff.mp identifier
  intro same
  by_cases isNaN : number.isNaN = true
  · rw [toList_text_of_isNaN isNaN] at same
    exact notNaN (String.toList_inj.mp same.symm)
  rcases toList_text_cases isNaN with infinite | ⟨character, others, figures, begins⟩
  · rw [infinite] at same
    exact notInfinite (String.toList_inj.mp same.symm)
  · rw [← same, figures] at characters areWord
    obtain ⟨rfl, rfl⟩ := List.cons.inj characters
    rcases begins with isDigit | ⟨rfl, _⟩
    · rw [isDigit] at notDigit
      cases notDigit
    · exact absurd (areWord '-' List.mem_cons_self) (by decide)

/-! ## Names in braces -/

/-- What follows the first of several names. -/
def furtherNames : List String → List Char
  | [] => []
  | name :: rest => ',' :: ' ' :: (commaSeparated (name :: rest)).toList

theorem toList_commaSeparated_cons (name : String) (rest : List String) :
    (commaSeparated (name :: rest)).toList = name.toList ++ furtherNames rest := by
  cases rest with
  | nil => simp [commaSeparated, furtherNames]
  | cons next rest => simp [commaSeparated, furtherNames]

theorem ends_furtherNames (names : List String) (rest : List Char) :
    Ends isWordCharacter (furtherNames names ++ '\x7d' :: rest) := by
  cases names with
  | nil =>
    rw [furtherNames, List.nil_append, ends_cons_iff]
    decide
  | cons name names =>
    rw [furtherNames, List.cons_append, ends_cons_iff]
    decide

theorem identifier_append_ne_brace {name : String} (identifier : isIdentifier name = true)
    (following rest : List Char) : name.toList ++ following ≠ '\x7d' :: rest := by
  obtain ⟨⟨first, others, characters, _⟩, areWord, _⟩ := isIdentifier_eq_true_iff.mp identifier
  rw [characters] at areWord ⊢
  intro same
  obtain ⟨rfl, _⟩ := List.cons.inj same
  exact absurd (areWord '\x7d' List.mem_cons_self) (by decide)

/-- A list of identifiers before a brace can be read. -/
theorem commaSeparated_append_inj {names others : List String} {rest otherRest : List Char}
    (identifiers : ∀ name ∈ names, isIdentifier name = true)
    (otherIdentifiers : ∀ name ∈ others, isIdentifier name = true)
    (same : (commaSeparated names).toList ++ '\x7d' :: rest =
      (commaSeparated others).toList ++ '\x7d' :: otherRest) :
    names = others ∧ rest = otherRest := by
  induction names generalizing others with
  | nil =>
    cases others with
    | nil => exact ⟨rfl, (List.cons.inj same).2⟩
    | cons other others =>
      rw [toList_commaSeparated_cons, List.append_assoc] at same
      exact absurd same.symm
        (identifier_append_ne_brace (otherIdentifiers other List.mem_cons_self) _ _)
  | cons name names inductionHypothesis =>
    cases others with
    | nil =>
      rw [toList_commaSeparated_cons, List.append_assoc] at same
      exact absurd same (identifier_append_ne_brace (identifiers name List.mem_cons_self) _ _)
    | cons other others =>
      obtain ⟨identifier, restIdentifiers⟩ := List.forall_mem_cons.mp identifiers
      obtain ⟨otherIdentifier, otherRestIdentifiers⟩ := List.forall_mem_cons.mp otherIdentifiers
      rw [toList_commaSeparated_cons, toList_commaSeparated_cons, List.append_assoc,
        List.append_assoc] at same
      obtain ⟨sameName, sameFollowing⟩ := append_inj_of_ends
        (isIdentifier_eq_true_iff.mp identifier).2.1
        (isIdentifier_eq_true_iff.mp otherIdentifier).2.1 (ends_furtherNames _ _)
        (ends_furtherNames _ _) same
      obtain rfl := String.toList_inj.mp sameName
      cases names with
      | nil =>
        cases others with
        | nil => exact ⟨rfl, (List.cons.inj sameFollowing).2⟩
        | cons _ _ => cases sameFollowing
      | cons next names =>
        cases others with
        | nil => cases sameFollowing
        | cons otherNext others =>
          have sameRest : (commaSeparated (next :: names)).toList ++ '\x7d' :: rest =
              (commaSeparated (otherNext :: others)).toList ++ '\x7d' :: otherRest := by
            simpa [furtherNames] using sameFollowing
          obtain ⟨sameNames, sameEnd⟩ :=
            inductionHypothesis restIdentifiers otherRestIdentifiers sameRest
          exact ⟨congrArg (name :: ·) sameNames, sameEnd⟩

/-- Variables with different names are determined by their names. -/
theorem Naming.Readable.eq_of_map_eq {names : Naming} {set : VarSet}
    (readable : names.Readable set) {first second : List Variable}
    (firstWithin : ∀ v ∈ first, v ∈ set) (secondWithin : ∀ v ∈ second, v ∈ set)
    (same : first.map names = second.map names) : first = second := by
  induction first generalizing second with
  | nil => exact (List.map_eq_nil_iff.mp same.symm).symm
  | cons v rest inductionHypothesis =>
    cases second with
    | nil => cases same
    | cons w others =>
      obtain ⟨vWithin, restWithin⟩ := List.forall_mem_cons.mp firstWithin
      obtain ⟨wWithin, othersWithin⟩ := List.forall_mem_cons.mp secondWithin
      obtain ⟨sameName, sameNames⟩ := List.cons.inj same
      rw [readable.different v vWithin w wWithin sameName,
        inductionHypothesis restWithin othersWithin sameNames]

/-- A set of variables before any other text can be read. -/
theorem VarSet.text_append_inj {names : Naming} {set first second : VarSet}
    (readable : names.Readable set) (firstWithin : ∀ v ∈ first, v ∈ set)
    (secondWithin : ∀ v ∈ second, v ∈ set) {rest others : List Char}
    (same : (first.text names).toList ++ rest = (second.text names).toList ++ others) :
    first = second ∧ rest = others := by
  have identifiers {members : VarSet} (within : ∀ v ∈ members, v ∈ set) :
      ∀ name ∈ members.toList.map names, isIdentifier name = true := by
    intro name isName
    obtain ⟨v, member, rfl⟩ := List.mem_map.mp isName
    exact readable.identifiers v (within v member)
  have inBraces : (commaSeparated (first.toList.map names)).toList ++ '\x7d' :: rest =
      (commaSeparated (second.toList.map names)).toList ++ '\x7d' :: others := by
    simpa [VarSet.text] using same
  obtain ⟨sameNames, sameRest⟩ :=
    commaSeparated_append_inj (identifiers firstWithin) (identifiers secondWithin) inBraces
  have sameMembers := readable.eq_of_map_eq firstWithin secondWithin sameNames
  refine ⟨VarSet.ext fun v => ?_, sameRest⟩
  rw [VarSet.mem_def, VarSet.mem_def, sameMembers]

end FloatLogic
