import NodeClasses.Field.Basic
import NodeClasses.Proofs.Text.Trimming

/-!
# The grammar of entries

An entry is a type, blanks, marks and a name, with blanks around them. `parse?_iff_spelled` says
that exactly such entries are read, that they are read in one way only, and that the blanks tell
nothing: whichever way a field is spelled, it is read back.
-/

namespace NodeClasses.Field
set_option autoImplicit false

open Text

/-- A way to write a field. -/
@[ext] structure Spelling where
  /-- What stands before the type. -/
  before : Text
  /-- What stands between the type and the marked name. -/
  between : Text
  /-- What stands behind the name. -/
  after : Text
  /-- The field that is written. -/
  field : Field
  deriving DecidableEq, Repr

/-- The entry as it is written. -/
def Spelling.text (s : Spelling) : Text :=
  s.before ++ s.field.type ++ s.between ++ s.field.marks ++ s.field.name ++ s.after

/-- The way of writing follows the grammar of entries. -/
structure Spelling.Grammatical (s : Spelling) : Prop where
  before : AllBlank s.before
  between : AllBlank s.between
  between_ne_nil : s.between ≠ []
  after : AllBlank s.after
  type_starts : StartsBare s.field.type
  type_ends : EndsBare s.field.type
  /-- The type says more than how it is qualified. -/
  type_tells : ∃ word ∈ words s.field.type, word ∉ Cpp.qualifiers
  marks : ∀ c ∈ s.field.marks, c = '*' ∨ c = '&'
  name : Cpp.isIdentifier s.field.name = true
  /-- The name is no part of the type. -/
  name_own : s.field.name ∉ Cpp.fundamentalTypes

/-- Blanks around an entry do not count. -/
theorem parse?_surround {w w' : Text} (blank : AllBlank w) (blank' : AllBlank w') (t : Text) :
    parse? (w ++ t ++ w') = parse? t := by
  simp only [parse?, trim_surround w t w' blank blank']

/-- An entry is cut at its last blank. -/
theorem parse?_cut {before last : Text} {c : Char} (first : StartsBare before)
    (blank : isBlank c = true) (bare : ∀ d ∈ last, isBlank d = false) (ne : last ≠ []) :
    parse? (before ++ c :: last) =
      if (ofSplit before last).Admissible then some (ofSplit before last) else none := by
  have ends : EndsBare (before ++ c :: last) := by
    rw [List.append_cons]
    exact endsBare_append (endsBare_of_forall bare ne) _
  simp only [parse?, trim_of_bare (first.append _) ends, splitLast?_append before last blank bare]

namespace Spelling

variable {s t : Spelling}

/-- The marked name, which has no blank in it. -/
theorem Grammatical.last_bare (h : s.Grammatical) :
    ∀ c ∈ s.field.marks ++ s.field.name, isBlank c = false := by
  intro c member
  rcases List.mem_append.1 member with mark | inName
  · exact isBlank_of_isMark (isMark_iff.2 (h.marks c mark))
  · exact Cpp.isBlank_of_mem h.name inName

theorem Grammatical.last_ne_nil (h : s.Grammatical) : s.field.marks ++ s.field.name ≠ [] :=
  List.append_ne_nil_of_right_ne_nil _ (Cpp.ne_nil_of_isIdentifier h.name)

/-- A field is read from whatever spells it. -/
theorem Grammatical.parse?_text (h : s.Grammatical) : parse? s.text = some s.field := by
  obtain ⟨blanks, c, between⟩ : ∃ blanks c, s.between = blanks ++ [c] :=
    ⟨_, _, (List.dropLast_append_getLast h.between_ne_nil).symm⟩
  have inBetween : AllBlank (blanks ++ [c]) := between ▸ h.between
  have blank : isBlank c = true := inBetween c (by simp)
  have text : s.text = s.before ++
      ((s.field.type ++ blanks) ++ c :: (s.field.marks ++ s.field.name)) ++ s.after := by
    simp [Spelling.text, between]
  have field : ofSplit (s.field.type ++ blanks) (s.field.marks ++ s.field.name) = s.field := by
    have marks : ∀ d ∈ s.field.marks, isMark d = true := fun d m => isMark_iff.2 (h.marks d m)
    rw [ofSplit_marked _ _ _ marks h.name,
      trimEnd_append_blanks _ _ fun d m => inBetween d (List.mem_append_left _ m),
      trimEnd_of_endsBare h.type_ends]
  have admissible : s.field.Admissible := ⟨h.name, h.name_own, h.type_tells⟩
  rw [text, parse?_surround h.before h.after,
    parse?_cut (h.type_starts.append _) blank h.last_bare h.last_ne_nil, field, if_pos admissible]

/-- The blanks in an entry are told by it, once the field is. -/
theorem Grammatical.eq_of_text (hs : s.Grammatical) (ht : t.Grammatical)
    (field : s.field = t.field) (text : s.text = t.text) : s = t := by
  have type := hs.type_starts
  have last := startsBare_of_forall hs.last_bare hs.last_ne_nil
  have parts : s.before ++ (s.field.type ++ (s.between ++
        (s.field.marks ++ s.field.name ++ s.after))) =
      t.before ++ (s.field.type ++ (t.between ++
        (s.field.marks ++ s.field.name ++ t.after))) := by
    simpa [Spelling.text, field] using text
  obtain ⟨before, parts⟩ :=
    blanks_append_inj hs.before ht.before (type.append _) (type.append _) parts
  obtain ⟨between, parts⟩ :=
    blanks_append_inj hs.between ht.between (last.append _) (last.append _)
      (List.append_cancel_left parts)
  exact Spelling.ext before between (List.append_cancel_left parts) field

end Spelling

/-- What is read is spelled by the entry. -/
theorem exists_spelling {entry : Text} {f : Field} (read : parse? entry = some f) :
    ∃ s : Spelling, s.Grammatical ∧ s.field = f ∧ s.text = entry := by
  have admissible := admissible_of_parse? read
  unfold parse? at read
  split at read
  case h_1 => cases read
  case h_2 before last cut =>
    split at read
    case isFalse => cases read
    case isTrue =>
      obtain rfl := Option.some.inj read
      obtain ⟨c, blank, core, bare⟩ := splitLast?_eq_some_iff.1 cut
      obtain ⟨w, w', front, back, text⟩ := exists_trim entry
      obtain ⟨w₁, inner, type⟩ := exists_trimEnd before
      have worded : trimEnd before ≠ [] := by
        obtain ⟨-, -, word, member, -⟩ := admissible
        rintro (empty : (ofSplit before last).type = [])
        rw [empty] at member
        cases member
      have core : trim entry = trimEnd before ++ (w₁ ++ c :: last) := by
        rw [core, ← List.append_assoc, ← type]
      have starts : StartsBare (trimEnd before) :=
        StartsBare.of_append (core ▸ startsBare_trim (by simp [core])) worded
      refine ⟨⟨w, w₁ ++ [c], w', ofSplit before last⟩, ?_, rfl, ?_⟩
      case refine_1 =>
        constructor
        case before => exact front
        case between => exact List.forall_mem_append.2 ⟨inner, by simpa using blank⟩
        case between_ne_nil => simp
        case after => exact back
        case type_starts => exact starts
        case type_ends => exact (trimEnd_eq_nil_or before).resolve_left worded
        case type_tells => exact admissible.2.2
        case marks => exact fun d inMarks => isMark_iff.1 (List.mem_takeWhile_imp inMarks)
        case name => exact admissible.1
        case name_own => exact admissible.2.1
      case refine_2 =>
        conv_rhs => rw [text, core]
        simp [Spelling.text, ofSplit]

/-- **What an entry is.** An entry is read as a field exactly if it spells that field by the
grammar. An entry has at most one spelling, and what is read does not depend on its blanks. -/
theorem parse?_iff_spelled :
    (∀ (entry : Text) (f : Field),
      parse? entry = some f ↔ ∃ s : Spelling, s.Grammatical ∧ s.field = f ∧ s.text = entry) ∧
    (∀ s t : Spelling, s.Grammatical → t.Grammatical → s.text = t.text → s = t) ∧
    ∀ s t : Spelling, s.Grammatical → t.Grammatical → s.field = t.field →
      parse? s.text = parse? t.text := by
  refine ⟨fun entry f => ⟨exists_spelling, ?_⟩, fun s t hs ht text => ?_, fun s t hs ht field => ?_⟩
  case refine_1 =>
    rintro ⟨s, grammatical, rfl, rfl⟩
    exact grammatical.parse?_text
  case refine_2 =>
    have field : some s.field = some t.field := by rw [← hs.parse?_text, text, ht.parse?_text]
    exact hs.eq_of_text ht (Option.some.inj field) text
  case refine_3 => rw [hs.parse?_text, ht.parse?_text, field]

/-- A field that is spelled with several kinds of blanks, one of them inside its type. -/
def padded : Spelling :=
  ⟨"\t", "\u3000 \n", "\u00a0", ⟨"const std::map<int, Token>", "*&", "by_place"⟩⟩

theorem parse?_iff_spelled_padded :
    padded.Grammatical ∧ parse? padded.text = some padded.field ∧
      ∀ s : Spelling, s.Grammatical → s.text = padded.text → s = padded := by
  obtain ⟨read, unique, -⟩ := parse?_iff_spelled
  have grammatical : padded.Grammatical := by
    constructor
    case marks => simp [padded]
    all_goals decide +kernel
  refine ⟨grammatical, (read _ _).2 ⟨padded, grammatical, rfl, rfl⟩, fun s own text => ?_⟩
  exact unique s padded own grammatical text

end NodeClasses.Field
