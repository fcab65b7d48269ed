import NodeClasses.Proofs.Field.Classification
import NodeClasses.Proofs.Field.MarkPlace

/-!
# Marks in three places and what is initialized

An entry may be read as different fields, depending on the place of its marks, but each of them is
a pointer or a reference and is copied under its own name. If all marks are stars the fields are
also of the same kind: `entries_initializeAlike`.
-/

namespace NodeClasses.Field
set_option autoImplicit false

open Text

section Entries

variable {type marks name : Text}

/-- A type with marks at its end is that of a pointer or a reference. -/
theorem points_of_type {f : Field} {front : Text} (ends : f.type = front ++ marks)
    (marked : marks ≠ []) (areMarks : ∀ c ∈ marks, isMark c = true) : f.Points := by
  obtain ⟨others, c, rfl⟩ := marks.eq_nil_or_concat.resolve_left marked
  have mark : isMark c = true := areMarks c (by simp)
  have text : f.type = (front ++ others) ++ [c] := by simp [ends]
  refine .inr ⟨c, ?_, mark⟩
  rw [text, trimEnd, dropEndWhile_append_of_neg _ (isBlank_of_isMark mark)]
  simp

/-- Marks between blanks become the end of the type. -/
theorem exists_apart (trimmed : trim type = type) (marked : marks ≠ [])
    (areMarks : ∀ c ∈ marks, isMark c = true) :
    ∃ blanks, AllBlank blanks ∧ trim (type ++ " " ++ marks) = type ++ blanks ++ marks := by
  have bare : ∀ c ∈ marks, isBlank c = false := fun c mark => isBlank_of_isMark (areMarks c mark)
  have last : EndsBare marks := endsBare_of_forall bare marked
  have space : AllBlank " " := by decide +kernel
  -- Without a type even the blank before the marks is at the start of the text and goes away.
  by_cases empty : type = []
  case pos =>
    refine ⟨[], by simp [AllBlank], ?_⟩
    have whole := trim_surround " " marks [] space (by simp)
    rw [trim_of_bare (startsBare_of_forall bare marked) last] at whole
    simpa [empty] using whole
  case neg =>
    have first : StartsBare type := trimmed ▸ startsBare_trim (trimmed.symm ▸ empty)
    exact ⟨" ", space, trim_of_bare ((first.append _).append _) (endsBare_append last _)⟩

namespace MarkPlace

/-- Wherever the marks stand, the entry is read as a pointer or a reference. -/
theorem points_field (trimmed : trim type = type) (marked : marks ≠ [])
    (areMarks : ∀ c ∈ marks, isMark c = true) (place : MarkPlace) :
    (place.field type marks name).Points := by
  cases place with
  | withName => exact .inl marked
  | withType => exact points_of_type rfl marked areMarks
  | apart =>
    obtain ⟨blanks, -, text⟩ := exists_apart trimmed marked areMarks
    exact points_of_type text marked areMarks

/-- Wherever stars stand, the type names a token if it does without them. -/
theorem isTokenType_field (trimmed : trim type = type) (marked : marks ≠ [])
    (stars : ∀ c ∈ marks, c = '*') (place : MarkPlace) :
    isTokenType (place.field type marks name).type = isTokenType type := by
  have run : ∀ c ∈ marks, c = '*' ∨ isBlank c = true := fun c member => .inl (stars c member)
  cases place with
  | withName => rfl
  | withType => exact isTokenType_append_run type run
  | apart =>
    have areMarks : ∀ c ∈ marks, isMark c = true :=
      fun c member => isMark_iff.2 (.inl (stars c member))
    obtain ⟨blanks, blank, text⟩ := exists_apart trimmed marked areMarks
    have blankRun : ∀ c ∈ blanks, c = '*' ∨ isBlank c = true :=
      fun c member => .inr (blank c member)
    calc isTokenType (trim (type ++ " " ++ marks))
        = isTokenType (type ++ blanks ++ marks) := by rw [text]
      _ = isTokenType (type ++ blanks) := isTokenType_append_run _ run
      _ = isTokenType type := isTokenType_append_run _ blankRun

theorem name_field (place : MarkPlace) : (place.field type marks name).name = name := by
  cases place <;> rfl

end MarkPlace

/-- **One initializer for three places.** Whichever places of its marks an entry is read in, the
name is the same, and the member is copied from the parameter of that name. If the marks are all
stars the kind is the same too. -/
theorem entries_initializeAlike (trimmed : trim type = type) (marked : marks ≠ [])
    (areMarks : ∀ c ∈ marks, c = '*' ∨ c = '&') (named : Cpp.isIdentifier name = true) :
    (∀ (place : MarkPlace) (f : Field), parse? (place.entry type marks name) = some f →
        f.name = name ∧ f.initializer = name ++ "(" ++ name ++ ")") ∧
      ((∀ c ∈ marks, c = '*') → ∀ (place place' : MarkPlace) (f f' : Field),
        parse? (place.entry type marks name) = some f →
        parse? (place'.entry type marks name) = some f' → f.kind = f'.kind) := by
  have isMarks : ∀ c ∈ marks, isMark c = true := fun c member => isMark_iff.2 (areMarks c member)
  have read {place : MarkPlace} {f : Field} (h : parse? (place.entry type marks name) = some f) :
      f = place.field type marks name :=
    ((parse?_entry_iff trimmed marked isMarks named place f).1 h).2
  have points (place : MarkPlace) : (place.field type marks name).Points :=
    place.points_field trimmed marked isMarks
  refine ⟨fun place f h => ?_, fun stars place place' f f' h h' => ?_⟩
  case refine_1 =>
    obtain rfl := read h
    rw [initializer, (points place).isMoved_eq_false, place.name_field]
    exact ⟨rfl, rfl⟩
  case refine_2 =>
    obtain rfl := read h
    obtain rfl := read h'
    rw [(points place).kind_eq, (points place').kind_eq,
      place.isTokenType_field trimmed marked stars, place'.isTokenType_field trimmed marked stars]

end Entries

/-- A pointer to an owning pointer, which is read in two types. -/
theorem entries_initializeAlike_owned :
    parse? "std::unique_ptr<Expr> **left" = some ⟨"std::unique_ptr<Expr>", "**", "left"⟩ ∧
      parse? "std::unique_ptr<Expr> ** left" = some ⟨"std::unique_ptr<Expr> **", [], "left"⟩ ∧
      initializer ⟨"std::unique_ptr<Expr>", "**", "left"⟩ = "left(left)" ∧
      initializer ⟨"std::unique_ptr<Expr> **", [], "left"⟩ = "left(left)" ∧
      kind ⟨"std::unique_ptr<Expr>", "**", "left"⟩ =
        kind ⟨"std::unique_ptr<Expr> **", [], "left"⟩ := by
  have trimmed : trim ("std::unique_ptr<Expr>" : Text) = "std::unique_ptr<Expr>" := by
    decide +kernel
  have stars : ∀ c ∈ ("**" : Text), c = '*' := by simp
  have named : Cpp.isIdentifier "left" = true := by decide +kernel
  obtain ⟨copied, alike⟩ :=
    entries_initializeAlike trimmed (by simp) (fun c member => .inl (stars c member)) named
  have withName : parse? (MarkPlace.withName.entry "std::unique_ptr<Expr>" "**" "left") =
      some ⟨"std::unique_ptr<Expr>", "**", "left"⟩ := by
    decide +kernel
  have apart : parse? (MarkPlace.apart.entry "std::unique_ptr<Expr>" "**" "left") =
      some ⟨"std::unique_ptr<Expr> **", [], "left"⟩ := by
    decide +kernel
  have text : ("left" ++ "(" ++ "left" ++ ")" : Text) = "left(left)" := by decide +kernel
  refine ⟨by decide +kernel, by decide +kernel, ?_, ?_, alike stars _ _ _ _ withName apart⟩
  · exact (copied _ _ withName).2.trans text
  · exact (copied _ _ apart).2.trans text

end NodeClasses.Field
