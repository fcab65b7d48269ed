import Mathlib.Data.List.DropRight
import NodeClasses.Field.Basic

/-!
# Fields in declarations

A field that was read is told by its declaration: the last blank ends the type, and the marks end
where the name starts. `declaration_inj` says so, and `declaration_unbroken` that the declaration
is on one line if the type is.
-/

namespace NodeClasses
set_option autoImplicit false

theorem Text.trimEnd_trimEnd (t : Text) : trimEnd (trimEnd t) = trimEnd t := by
  unfold trimEnd dropEndWhile
  rw [List.reverse_reverse, List.dropWhile_idempotent]

namespace Field

open Text

/-- A field whose parts are cut as they are read. -/
structure Canonical (f : Field) : Prop where
  type : trimEnd f.type = f.type
  marks : ∀ c ∈ f.marks, isMark c = true
  name : Cpp.isIdentifier f.name = true

/-- What is read is cut that way. -/
theorem canonical_of_parse? {entry : Text} {f : Field} (read : parse? entry = some f) :
    f.Canonical := by
  have admissible := admissible_of_parse? read
  unfold parse? at read
  split at read
  · cases read
  · next before last _ =>
    split at read
    · obtain rfl := Option.some.inj read
      exact ⟨trimEnd_trimEnd before, List.all_eq_true.1 List.all_takeWhile, admissible.1⟩
    · cases read

theorem Canonical.unblank {f : Field} (h : f.Canonical) :
    ∀ c ∈ f.marks ++ f.name, isBlank c = false := by
  intro c member
  rcases List.mem_append.1 member with mark | inName
  · exact isBlank_of_isMark (h.marks c mark)
  · exact Cpp.isBlank_of_mem h.name inName

/-- The last blank of a declaration ends the type. -/
theorem splitLast?_declaration {f : Field} (h : f.Canonical) :
    splitLast? f.declaration = some (f.type, f.marks ++ f.name) := by
  have blank : isBlank ' ' = true := by decide
  have cut : f.declaration = f.type ++ ' ' :: (f.marks ++ f.name) := by simp [declaration]
  rw [cut, splitLast?_append _ _ blank h.unblank]

/-- A field is told by its declaration. -/
theorem declaration_inj {f g : Field} (hf : f.Canonical) (hg : g.Canonical) :
    f.declaration = g.declaration ↔ f = g := by
  constructor
  · intro same
    have cut := splitLast?_declaration hf
    rw [same, splitLast?_declaration hg, Option.some.injEq, Prod.mk.injEq] at cut
    obtain ⟨type, last⟩ := cut
    have parts {d : Field} (h : d.Canonical) : ofSplit d.type (d.marks ++ d.name) = d := by
      rw [ofSplit_marked d.type d.marks d.name h.marks h.name, h.type]
    rw [← parts hf, ← parts hg, type, last]
  · intro same
    rw [same]

/-- A declaration is on one line if its type is. -/
theorem Canonical.declaration_unbroken {f : Field} (h : f.Canonical) (type : '\n' ∉ f.type) :
    '\n' ∉ f.declaration := by
  have last : '\n' ∉ f.marks ++ f.name := by
    intro member
    exact absurd (h.unblank _ member) (by decide)
  have cut : f.declaration = f.type ++ ' ' :: (f.marks ++ f.name) := by simp [declaration]
  rw [cut, List.mem_append, List.mem_cons]
  rintro (inType | blank | member)
  · exact type inType
  · exact absurd blank (by decide)
  · exact last member

end Field

end NodeClasses
