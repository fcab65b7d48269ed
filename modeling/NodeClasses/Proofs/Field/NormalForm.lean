import NodeClasses.Proofs.Field.Declaration
import NodeClasses.Proofs.Field.Grammar

/-!
# The normal form of an entry

The declaration of a field is an entry too, and it is read as the field that it declares. So an
entry has a normal form, and entries have the same one exactly if they are read as the same field:
`declaration_readsBack`.
-/

namespace NodeClasses.Field
set_option autoImplicit false

open Text

namespace Spelling

variable {s : Spelling}

/-- The spelling of the same field with a single space before the marked name, and no other blanks
between its parts or around it. -/
def spaced (s : Spelling) : Spelling where
  before := []
  between := " "
  after := []
  field := s.field

theorem text_spaced (s : Spelling) : s.spaced.text = s.field.declaration := by
  simp [spaced, Spelling.text, declaration]

theorem Grammatical.spaced (h : s.Grammatical) : s.spaced.Grammatical where
  before := by simp [Spelling.spaced, AllBlank]
  between := by simpa [Spelling.spaced, AllBlank] using (by decide : isBlank ' ' = true)
  between_ne_nil := by simp [Spelling.spaced]
  after := by simp [Spelling.spaced, AllBlank]
  type_starts := h.type_starts
  type_ends := h.type_ends
  type_tells := h.type_tells
  marks := h.marks
  name := h.name
  name_own := h.name_own

end Spelling

/-- An entry with the field that it spells written as a declaration, if it spells one. -/
def normal? (entry : Text) : Option Text := (parse? entry).map declaration

/-- The declaration of a field that was read is read as that field. -/
theorem parse?_declaration {entry : Text} {f : Field} (read : parse? entry = some f) :
    parse? f.declaration = some f := by
  obtain ⟨s, grammatical, rfl, -⟩ := exists_spelling read
  rw [← s.text_spaced]
  exact grammatical.spaced.parse?_text

theorem normal?_declaration {entry : Text} {f : Field} (read : parse? entry = some f) :
    normal? f.declaration = some f.declaration := by
  rw [normal?, parse?_declaration read, Option.map_some]

/-- The entries in normal form are those with a single space before the marked name and no other
blanks between the parts. -/
theorem normal?_eq_self_iff {entry : Text} :
    normal? entry = some entry ↔ ∃ s : Spelling, s.Grammatical ∧ s.text = entry ∧ s.spaced = s := by
  constructor
  · intro normal
    obtain ⟨f, read, text⟩ := Option.map_eq_some_iff.1 normal
    obtain ⟨s, grammatical, rfl, -⟩ := exists_spelling read
    exact ⟨s.spaced, grammatical.spaced, by rw [s.text_spaced, text], rfl⟩
  · rintro ⟨s, grammatical, rfl, same⟩
    rw [normal?, grammatical.parse?_text, Option.map_some, ← s.text_spaced, same]

/-- **Declarations are read back.** The declaration of a field that was read is read as that field,
with the same type, marks, name and kind. So an entry is normalized once and for all, and two
entries are declared alike exactly if they are read as the same field. -/
theorem declaration_readsBack :
    (∀ (entry : Text) (f : Field), parse? entry = some f → parse? f.declaration = some f) ∧
    (∀ entry : Text, (normal? entry).bind normal? = normal? entry) ∧
    (∀ (entry entry' : Text) (f f' : Field), parse? entry = some f → parse? entry' = some f' →
      (f.declaration = f'.declaration ↔ f = f')) ∧
    ∀ entry : Text, normal? entry = some entry ↔
      ∃ s : Spelling, s.Grammatical ∧ s.text = entry ∧ s.spaced = s := by
  refine ⟨fun _ _ read => parse?_declaration read, fun entry => ?_, fun _ _ f f' read read' => ?_,
    fun _ => normal?_eq_self_iff⟩
  case refine_1 =>
    cases read : parse? entry with
    | none => simp [normal?, read]
    | some f =>
      rw [normal?, read, Option.map_some, Option.bind_some]
      exact normal?_declaration read
  case refine_2 => exact declaration_inj (canonical_of_parse? read) (canonical_of_parse? read')

/-- A field with a blank in its type. -/
def placeField : Field := ⟨"antlr4::Token\u00a0const", "**", "place"⟩

/-- An entry that spells it with blanks of several kinds. -/
def placeEntry : Text := "\u2003antlr4::Token\u00a0const \t**place\n"

theorem declaration_readsBack_rough :
    parse? placeEntry = some placeField ∧ parse? placeField.declaration = some placeField ∧
      (normal? placeEntry).bind normal? = normal? placeEntry ∧
      normal? placeEntry = some placeField.declaration ∧
      placeField.declaration ≠ declaration ⟨"antlr4::Token\u00a0const **", [], "place"⟩ := by
  obtain ⟨readsBack, once, alike, -⟩ := declaration_readsBack
  have read : parse? placeEntry = some placeField := by decide +kernel
  have apart : parse? "antlr4::Token\u00a0const ** place" =
      some ⟨"antlr4::Token\u00a0const **", [], "place"⟩ := by
    decide +kernel
  refine ⟨read, readsBack _ _ read, once _, by rw [normal?, read, Option.map_some], ?_⟩
  exact (alike _ _ _ _ read apart).not.2 (by decide +kernel)

end NodeClasses.Field
