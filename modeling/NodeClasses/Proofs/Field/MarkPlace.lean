import NodeClasses.Proofs.Field.Grammar

/-!
# Where the marks of an entry stand

The marks of a pointer or a reference are written with the name, with the type, or between blanks.
Marks with the name are taken off it, and all others become part of the type. There they count as
something that a type tells, so a lone `const` or no type at all is refused in front of `*name`, but
let through as `const* name` or `* name`: `readAlike_iff`.
-/

namespace NodeClasses.Field
set_option autoImplicit false

open Text

/-- A place for the marks of an entry. -/
inductive MarkPlace where
  /-- Before the name, as in `Token *name`. -/
  | withName
  /-- Behind the type, as in `Token* name`. -/
  | withType
  /-- Between blanks, as in `Token * name`. -/
  | apart
  deriving DecidableEq, Repr

/-- The type says more than how it is qualified. -/
def Tells (type : Text) : Prop := ∃ word ∈ words type, word ∉ Cpp.qualifiers

instance (type : Text) : Decidable (Tells type) :=
  inferInstanceAs (Decidable (∃ word ∈ words type, word ∉ Cpp.qualifiers))

namespace MarkPlace

/-- The entry with its marks in that place. -/
def entry (type marks name : Text) : MarkPlace → Text
  | withName => type ++ " " ++ marks ++ name
  | withType => type ++ marks ++ " " ++ name
  | apart => type ++ " " ++ marks ++ " " ++ name

/-- The field that the entry is read as. -/
def field (type marks name : Text) : MarkPlace → Field
  | withName => ⟨type, marks, name⟩
  | withType => ⟨type ++ marks, [], name⟩
  | apart => ⟨trim (type ++ " " ++ marks), [], name⟩

/-- The name is no part of the type, and marks that are no part of it leave it something to tell. -/
def Allows (type name : Text) (place : MarkPlace) : Prop :=
  name ∉ Cpp.fundamentalTypes ∧ (place = withName → Tells type)

end MarkPlace

/-- The entry is read in all three places of its marks, or in none of them. -/
def ReadAlike (type marks name : Text) : Prop :=
  (∀ place : MarkPlace, ∃ f, parse? (place.entry type marks name) = some f) ∨
    ∀ place : MarkPlace, parse? (place.entry type marks name) = none

/-- No qualifier has a mark in it. -/
theorem notMem_qualifiers_of_mark {word : Text} {c : Char} (member : c ∈ word)
    (mark : isMark c = true) : word ∉ Cpp.qualifiers := by
  have bare : (Cpp.qualifiers.all fun q => q.all fun d => !isMark d) = true := by decide +kernel
  intro qualifier
  have plain := List.all_eq_true.1 (List.all_eq_true.1 bare word qualifier) c member
  rw [mark] at plain
  cases plain

/-- A type with a mark in it tells something. -/
theorem tells_of_mark {type : Text} {c : Char} (member : c ∈ type) (mark : isMark c = true) :
    Tells type := by
  obtain ⟨word, found, own⟩ := exists_word_of_mem member (isBlank_of_isMark mark)
  exact ⟨word, found, notMem_qualifiers_of_mark own mark⟩

theorem not_tells_nil : ¬ Tells [] := by
  rintro ⟨word, found, -⟩
  simp [words, pieces] at found

theorem admissible_iff {type marks name : Text} (named : Cpp.isIdentifier name = true) :
    (⟨type, marks, name⟩ : Field).Admissible ↔ name ∉ Cpp.fundamentalTypes ∧ Tells type := by
  simp [Admissible, Tells, named]

/-- What stands in front of a blank and a marked name is trimmed and becomes the type. -/
theorem parse?_marked {marks name : Text} (areMarks : ∀ c ∈ marks, isMark c = true)
    (named : Cpp.isIdentifier name = true) (front : Text) :
    parse? (front ++ ' ' :: (marks ++ name)) =
      if name ∉ Cpp.fundamentalTypes ∧ Tells (trim front) then some ⟨trim front, marks, name⟩
      else none := by
  have blank : isBlank ' ' = true := by decide
  have bare : ∀ c ∈ marks ++ name, isBlank c = false := by
    intro c member
    rcases List.mem_append.1 member with mark | inName
    · exact isBlank_of_isMark (areMarks c mark)
    · exact Cpp.isBlank_of_mem named inName
  have ne : marks ++ name ≠ [] :=
    List.append_ne_nil_of_right_ne_nil _ (Cpp.ne_nil_of_isIdentifier named)
  obtain ⟨w, w', before, behind, text⟩ := exists_trim front
  have core : front ++ ' ' :: (marks ++ name) =
      w ++ (trim front ++ w' ++ ' ' :: (marks ++ name)) ++ [] := by
    conv_lhs => rw [text]
    simp
  rw [core, parse?_surround before (by simp [AllBlank])]
  by_cases empty : trim front = []
  case pos =>
    -- Only the marked name is left once the blanks are trimmed away.
    have blanks : AllBlank (w' ++ [' ']) := List.forall_mem_append.2 ⟨behind, by simpa using blank⟩
    have alone : trim front ++ w' ++ ' ' :: (marks ++ name) =
        (w' ++ [' ']) ++ (marks ++ name) ++ [] := by
      simp [empty]
    have whole : trim (marks ++ name) = marks ++ name :=
      trim_of_bare (startsBare_of_forall bare ne) (endsBare_of_forall bare ne)
    rw [alone, parse?_surround blanks (by simp [AllBlank]), if_neg]
    · simp only [parse?, whole, splitLast?_eq_none bare]
    · rw [empty]
      exact fun allowed => not_tells_nil allowed.2
  case neg =>
    have split : ofSplit (trim front ++ w') (marks ++ name) = ⟨trim front, marks, name⟩ := by
      rw [ofSplit_marked _ _ _ areMarks named, trimEnd_append_blanks _ _ behind, trimEnd_trim]
    rw [parse?_cut ((startsBare_trim empty).append w') blank bare ne, split]
    simp only [admissible_iff named]

section Entries

variable {type marks name : Text}

/-- An entry is read as its marks are placed, if it is allowed there. -/
theorem parse?_entry_iff (trimmed : trim type = type) (marked : marks ≠ [])
    (areMarks : ∀ c ∈ marks, isMark c = true) (named : Cpp.isIdentifier name = true)
    (place : MarkPlace) (f : Field) :
    parse? (place.entry type marks name) = some f ↔
      place.Allows type name ∧ f = place.field type marks name := by
  have bare : ∀ c ∈ marks, isBlank c = false := fun c mark => isBlank_of_isMark (areMarks c mark)
  -- Marks in front of the blank stay there when the type is trimmed.
  have tells (front : Text) : Tells (trim (front ++ marks)) := by
    obtain ⟨c, rest, rfl⟩ := List.exists_cons_of_ne_nil marked
    have member : c ∈ front ++ c :: rest := by simp
    exact tells_of_mark (mem_trim member (bare c List.mem_cons_self))
      (areMarks c List.mem_cons_self)
  have read (front own : Text) (ownMarks : ∀ c ∈ own, isMark c = true) :
      parse? (front ++ ' ' :: (own ++ name)) = some f ↔
        (name ∉ Cpp.fundamentalTypes ∧ Tells (trim front)) ∧ f = ⟨trim front, own, name⟩ := by
    rw [parse?_marked ownMarks named, Option.ite_none_right_eq_some, Option.some_inj, eq_comm]
  cases place with
  | withName =>
    have text : MarkPlace.entry type marks name .withName = type ++ ' ' :: (marks ++ name) := by
      simp [MarkPlace.entry]
    rw [text, read type marks areMarks, trimmed]
    simp [MarkPlace.Allows, MarkPlace.field]
  | withType =>
    have text : MarkPlace.entry type marks name .withType =
        (type ++ marks) ++ ' ' :: ([] ++ name) := by
      simp [MarkPlace.entry]
    have glued : trim (type ++ marks) = type ++ marks := by
      have last : EndsBare (type ++ marks) := endsBare_append (endsBare_of_forall bare marked) type
      by_cases empty : type = []
      · subst empty
        exact trim_of_bare (startsBare_of_forall bare marked) last
      · have first : StartsBare type := trimmed ▸ startsBare_trim (trimmed.symm ▸ empty)
        exact trim_of_bare (first.append marks) last
    rw [text, read _ [] (by simp), and_iff_left (tells type), glued]
    simp [MarkPlace.Allows, MarkPlace.field]
  | apart =>
    have text : MarkPlace.entry type marks name .apart =
        (type ++ " " ++ marks) ++ ' ' :: ([] ++ name) := by
      simp [MarkPlace.entry]
    rw [text, read _ [] (by simp), and_iff_left (tells _)]
    simp [MarkPlace.Allows, MarkPlace.field]

/-- **Marks in three places.** An entry is read as its marks are placed. It is read in all three
places or in none exactly if its type tells something without the marks, or its name is that of a
fundamental type and refused everywhere. -/
theorem readAlike_iff (trimmed : trim type = type) (marked : marks ≠ [])
    (areMarks : ∀ c ∈ marks, c = '*' ∨ c = '&') (named : Cpp.isIdentifier name = true) :
    (∀ (place : MarkPlace) (f : Field), parse? (place.entry type marks name) = some f ↔
        place.Allows type name ∧ f = place.field type marks name) ∧
      (ReadAlike type marks name ↔ name ∈ Cpp.fundamentalTypes ∨ Tells type) := by
  have isMarks : ∀ c ∈ marks, isMark c = true := fun c member => isMark_iff.2 (areMarks c member)
  have read := parse?_entry_iff trimmed marked isMarks named
  have accepted (place : MarkPlace) :
      (∃ f, parse? (place.entry type marks name) = some f) ↔ place.Allows type name := by
    simp only [read, exists_and_left, exists_eq, and_true]
  have refused (place : MarkPlace) :
      parse? (place.entry type marks name) = none ↔ ¬ place.Allows type name := by
    rw [← accepted, Option.eq_none_iff_forall_ne_some, not_exists]
  refine ⟨read, ?_⟩
  simp only [ReadAlike, accepted, refused]
  constructor
  · rintro (all | none)
    · exact .inr ((all .withName).2 rfl)
    · left
      by_contra own
      have here : MarkPlace.withType ≠ .withName := by decide
      exact none .withType ⟨own, fun other => absurd other here⟩
  · intro condition
    by_cases part : name ∈ Cpp.fundamentalTypes
    · exact .inr fun place allowed => allowed.1 part
    · exact .inl fun place => ⟨part, fun _ => condition.resolve_left part⟩

end Entries

/-- A qualified type tells something, so the place of its marks does not matter. -/
theorem readAlike_iff_qualified :
    ReadAlike "const Token" "*&" "op" ∧
      parse? (MarkPlace.withName.entry "const Token" "*&" "op") =
        some ⟨"const Token", "*&", "op"⟩ := by
  have trimmed : trim ("const Token" : Text) = "const Token" := by decide +kernel
  have marked : ("*&" : Text) ≠ [] := by simp
  have areMarks : ∀ c ∈ ("*&" : Text), c = '*' ∨ c = '&' := by simp
  have named : Cpp.isIdentifier "op" = true := by decide +kernel
  have tells : Tells "const Token" := by decide +kernel
  obtain ⟨read, alike⟩ := readAlike_iff trimmed marked areMarks named
  have own : ("op" : Text) ∉ Cpp.fundamentalTypes := by decide +kernel
  exact ⟨alike.2 (.inr tells), (read .withName _).2 ⟨⟨own, fun _ => tells⟩, rfl⟩⟩

/-- The place of the marks may matter: `const *x` is refused, and `const* x` is read. -/
theorem not_readAlike :
    ¬ ∀ type marks name : Text, trim type = type → marks ≠ [] →
      (∀ c ∈ marks, c = '*' ∨ c = '&') → Cpp.isIdentifier name = true →
        ReadAlike type marks name := by
  intro alike
  have refused : parse? (MarkPlace.withName.entry "const" "*" "x") = none := by decide +kernel
  have read : parse? (MarkPlace.withType.entry "const" "*" "x") ≠ none := by decide +kernel
  rcases alike "const" "*" "x" (by decide +kernel) (by simp) (by simp) (by decide +kernel) with
    all | none
  · obtain ⟨f, found⟩ := all .withName
    rw [refused] at found
    cases found
  · exact read (none .withType)

end NodeClasses.Field
