import NodeClasses.Cpp.Name
import NodeClasses.Field.Kind

/-!
# Fields

A field is a member of a node: a type, the pointer and reference marks on its name, and the name.
It is read from an entry of the form `type name`. `admissible_of_parse?` says what a field that
was read can be relied on for, and `ofSplit_marked` that marks and name are told apart wherever
they meet.
-/

namespace NodeClasses
set_option autoImplicit false

open Text

/-- A member of a node, and so also a parameter of its constructor. -/
structure Field where
  /-- The type as written, without the marks on the name. -/
  type : Text
  /-- The `*` and `&` written directly before the name. -/
  marks : Text
  /-- The bare name. -/
  name : Text
  deriving DecidableEq, Repr

namespace Field

/-- Is the character a pointer or reference mark? -/
def isMark (c : Char) : Bool := c == '*' || c == '&'

/-- A name and a type that can stand in a declaration: the name is no part of the type (as in
`unsigned int`), and the type says more than how it is qualified (as in `const Token`). -/
def Admissible (f : Field) : Prop :=
  Cpp.isIdentifier f.name = true ∧ f.name ∉ Cpp.fundamentalTypes ∧
    ∃ word ∈ words f.type, word ∉ Cpp.qualifiers

instance (f : Field) : Decidable f.Admissible :=
  inferInstanceAs (Decidable (_ ∧ _ ∧ _))

/-- The parts of an entry that is cut into what precedes its last blank and what follows it. -/
def ofSplit (before last : Text) : Field where
  type := trimEnd before
  marks := last.takeWhile isMark
  name := last.dropWhile isMark

/-- Reads an entry of the form `type name`, cutting it at its last blank. -/
def parse? (entry : Text) : Option Field :=
  match splitLast? (trim entry) with
  | none => none
  | some (before, last) =>
    if (ofSplit before last).Admissible then some (ofSplit before last) else none

/-- The kind of the member. -/
def kind (f : Field) : Kind := Kind.ofType f.type f.marks

/-- The field as a declaration, which is both its member and its parameter. -/
def declaration (f : Field) : Text := f.type ++ " " ++ f.marks ++ f.name

/-- Initializes the member from the parameter of the same name. -/
def initializer (f : Field) : Text :=
  if f.kind.isMoved then f.name ++ "(std::move(" ++ f.name ++ "))"
  else f.name ++ "(" ++ f.name ++ ")"

/-- What is read is admissible. -/
theorem admissible_of_parse? {entry : Text} {f : Field} (h : parse? entry = some f) :
    f.Admissible := by
  unfold parse? at h
  split at h
  · simp at h
  · split at h
    · next admissible => exact Option.some.inj h ▸ admissible
    · simp at h

theorem isMark_iff {c : Char} : isMark c = true ↔ c = '*' ∨ c = '&' := by
  simp [isMark]

/-- A character of a name is no mark. -/
theorem isMark_of_isNameChar {c : Char} (h : Cpp.isNameChar c = true) : isMark c = false := by
  rw [Bool.eq_false_iff]
  intro mark
  rcases isMark_iff.1 mark with rfl | rfl <;> revert h <;> decide

theorem isBlank_of_isMark {c : Char} (h : isMark c = true) : isBlank c = false := by
  rcases isMark_iff.1 h with rfl | rfl <;> decide

/-- Marks in front of a name are told apart from it. -/
theorem ofSplit_marked (before marks name : Text) (hm : ∀ c ∈ marks, isMark c = true)
    (hn : Cpp.isIdentifier name = true) :
    ofSplit before (marks ++ name) = ⟨trimEnd before, marks, name⟩ := by
  obtain ⟨c, rest, rfl⟩ := List.exists_cons_of_ne_nil (Cpp.ne_nil_of_isIdentifier hn)
  have first : isMark c = false := isMark_of_isNameChar (Cpp.isNameChar_of_mem hn (by simp))
  simp only [ofSplit, List.takeWhile_append_of_pos hm, List.dropWhile_append_of_pos hm,
    List.takeWhile_cons, List.dropWhile_cons, first]
  simp

end Field

end NodeClasses
