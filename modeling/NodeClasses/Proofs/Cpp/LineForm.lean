import Mathlib.Data.List.Infix
import NodeClasses.Cpp.Name

/-!
# Lines that tell names

A form of lines is a fixed opening, then a name, then what the form lets stand behind that name.
A line is read in a form by its longest run of name characters behind the opening.
`name?_eq_some_iff` says that this reads exactly the lines of the form, so a line tells at most one
name in a form, however the rest of it goes on.
-/

namespace NodeClasses
set_option autoImplicit false

open Text

/-- A name that nothing goes on with is the longest run of name characters. -/
theorem Cpp.takeWhile_name {name tail : Text} (named : isIdentifier name = true)
    (apart : ∀ c ∈ tail.head?, isNameChar c = false) :
    (name ++ tail).takeWhile isNameChar = name ∧ (name ++ tail).dropWhile isNameChar = tail := by
  have chars : ∀ c ∈ name, isNameChar c = true := fun c => isNameChar_of_mem named
  rw [List.takeWhile_append_of_pos chars, List.dropWhile_append_of_pos chars]
  cases tail with
  | nil => simp
  | cons c rest => simp [apart c rfl]

/-- A form of lines that tell a name. -/
structure LineForm where
  /-- What stands before the name. -/
  opening : Text
  /-- May this stand behind the name, up to the end of the line? -/
  closes : Text → Text → Bool
  /-- What stands behind a name does not go on with it. -/
  apart : ∀ (name tail : Text), closes name tail = true → ∀ c ∈ tail.head?, Cpp.isNameChar c = false

namespace LineForm

/-- The lines with a fixed text before and a fixed text behind the name. -/
def ofEnds (opening closing : Text) (apart : ∀ c ∈ closing.head?, Cpp.isNameChar c = false) :
    LineForm where
  opening := opening
  closes _ tail := tail == closing
  apart _ _ closed := by
    rw [eq_of_beq closed]
    exact apart

/-- The line is made of the opening, the name and something that closes it. -/
def Fits (form : LineForm) (name line : Text) : Prop :=
  Cpp.isIdentifier name = true ∧
    ∃ tail, form.closes name tail = true ∧ line = form.opening ++ (name ++ tail)

/-- The name that a line of the form tells. -/
def name? (form : LineForm) (line : Text) : Option Text :=
  match List.isPrefixOf? form.opening line with
  | none => none
  | some rest =>
    let name := rest.takeWhile Cpp.isNameChar
    if Cpp.isIdentifier name && form.closes name (rest.dropWhile Cpp.isNameChar) then some name
    else none

/-- The names that the lines of a text tell in the form, in order. -/
def names (form : LineForm) (text : Text) : List Text := (linesOf text).filterMap form.name?

variable {form : LineForm} {name line : Text}

/-- A line that opens with a name tells it or tells nothing. -/
theorem name?_append (named : Cpp.isIdentifier name = true) {tail : Text}
    (apart : ∀ c ∈ tail.head?, Cpp.isNameChar c = false) :
    form.name? (form.opening ++ (name ++ tail)) =
      if form.closes name tail = true then some name else none := by
  have opened : List.isPrefixOf? form.opening (form.opening ++ (name ++ tail)) =
      some (name ++ tail) := List.isPrefixOf?_eq_some_iff_append_eq.2 rfl
  obtain ⟨run, behind⟩ := Cpp.takeWhile_name named apart
  simp only [name?, opened, run, behind, named, Bool.true_and]

theorem name?_eq_none_of_opening (other : ¬ form.opening <+: line) : form.name? line = none := by
  cases cut : List.isPrefixOf? form.opening line with
  | none => simp only [name?, cut]
  | some rest => exact absurd ⟨rest, List.isPrefixOf?_eq_some_iff_append_eq.1 cut⟩ other

/-- The lines that tell a name are those of the form. -/
theorem name?_eq_some_iff : form.name? line = some name ↔ form.Fits name line := by
  constructor
  · intro told
    unfold name? at told
    split at told
    · cases told
    · next rest cut =>
      dsimp only at told
      split at told
      · next closed =>
        obtain rfl := Option.some.inj told
        obtain ⟨named, closed⟩ := Bool.and_eq_true_iff.1 closed
        refine ⟨named, _, closed, ?_⟩
        rw [List.takeWhile_append_dropWhile]
        exact (List.isPrefixOf?_eq_some_iff_append_eq.1 cut).symm
      · cases told
  · rintro ⟨named, tail, closed, rfl⟩
    rw [name?_append named (form.apart name tail closed), if_pos closed]

theorem fits_ofEnds_iff {opening closing : Text}
    {apart : ∀ c ∈ closing.head?, Cpp.isNameChar c = false} :
    (ofEnds opening closing apart).Fits name line ↔
      Cpp.isIdentifier name = true ∧ line = opening ++ name ++ closing := by
  simp [Fits, ofEnds]

instance (form : LineForm) (name line : Text) : Decidable (form.Fits name line) :=
  decidable_of_iff (form.name? line = some name) name?_eq_some_iff

/-- How many lines of the text have the form with that name. -/
def lineCount (form : LineForm) (text name : Text) : Nat :=
  (linesOf text).countP fun line => decide (form.Fits name line)

/-- A name is told once for each line that has the form with it. -/
theorem lineCount_eq (form : LineForm) (text name : Text) :
    form.lineCount text name = (form.names text).count name := by
  rw [lineCount, names, List.count_filterMap]
  refine List.countP_congr fun line _ => ?_
  rw [decide_eq_true_iff, beq_iff_eq, name?_eq_some_iff]

end LineForm

end NodeClasses
