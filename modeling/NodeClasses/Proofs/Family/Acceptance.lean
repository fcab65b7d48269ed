import Mathlib.Data.List.Nodup
import NodeClasses.Family.Basic

/-!
# Accepted families

The builder goes through the variants and stops at the first fault, with the names it has seen in
hand. `build_iff_wellFormed` says that this comes to the conditions of a well formed family, which
do not speak of any order, and that a family that is built is what was given: its variants are
found by their names, and nothing is found under any other name.
-/

namespace NodeClasses
set_option autoImplicit false

namespace Family

theorem variant?_eq_none_iff {f : Family} {name : Text} :
    f.variant? name = none ↔ name ∉ f.variants.map Variant.name := by
  simp [variant?]

/-- As names are different, the first variant with a name is the only one. -/
theorem variant?_eq_some_iff {f : Family} {name : Text} {v : Variant} :
    f.variant? name = some v ↔ v ∈ f.variants ∧ v.name = name := by
  constructor
  · intro found
    exact ⟨List.mem_of_find?_eq_some found, by simpa using List.find?_some found⟩
  · rintro ⟨member, rfl⟩
    cases found : f.variant? v.name with
    | none => exact absurd (List.mem_map_of_mem member) (variant?_eq_none_iff.1 found)
    | some w =>
      have inside : w ∈ f.variants := List.mem_of_find?_eq_some found
      have same : w.name = v.name := by simpa using List.find?_some found
      rw [List.inj_on_of_nodup_map f.wellFormed.names_nodup inside member same]

/-- The family is made of the base and the variants that were given, unchanged and in order. -/
structure Keeps (f : Family) (base : Text) (variants : List Variant) : Prop where
  base_eq : f.base = base
  variants_eq : f.variants = variants
  size_eq : f.size = variants.length
  size_ne_zero : f.size ≠ 0
  /-- Each variant is found by its name, with its entries. -/
  found : ∀ v ∈ variants, f.variant? v.name = some v
  /-- Nothing is found under other names. -/
  absent : ∀ name, name ∉ variants.map Variant.name → f.variant? name = none

theorem exists_build_iff {base : Text} {variants : List Variant} :
    (∃ f, build base variants = .ok f) ↔ WellFormed base variants := by
  constructor
  · rintro ⟨f, built⟩
    obtain ⟨rfl, rfl⟩ := build_eq_ok_iff.1 built
    exact f.wellFormed
  · intro wellFormed
    exact ⟨⟨base, variants, wellFormed⟩, build_eq_ok_iff.2 ⟨rfl, rfl⟩⟩

theorem keeps_of_build {base : Text} {variants : List Variant} {f : Family}
    (built : build base variants = .ok f) : f.Keeps base variants := by
  obtain ⟨rfl, rfl⟩ := build_eq_ok_iff.1 built
  constructor
  case base_eq => rfl
  case variants_eq => rfl
  case size_eq => rfl
  case size_ne_zero => exact Nat.ne_of_gt f.size_pos
  case found => exact fun v member => variant?_eq_some_iff.2 ⟨member, rfl⟩
  case absent => exact fun name other => variant?_eq_none_iff.2 other

/-- **What is accepted.** A base and variants are built into a family exactly if they are well
formed, and what is built keeps them as they were given. -/
theorem build_iff_wellFormed (base : Text) (variants : List Variant) :
    ((∃ f, build base variants = .ok f) ↔ WellFormed base variants) ∧
      ∀ f, build base variants = .ok f → f.Keeps base variants :=
  ⟨exists_build_iff, fun _ => keeps_of_build⟩

/-- Variants of which the first has an entry that cannot be read, in front of the given one. -/
def partlyRead (entry : Text) : List Variant :=
  [⟨"Leaf", ["Token value", "???", entry]⟩, ⟨"Nil", []⟩]

/-- An entry that cannot be read is kept, and does not hide that a later one repeats a name. -/
theorem build_iff_wellFormed_partlyRead :
    (∃ f, build "Expr" (partlyRead "int count") = .ok f ∧
        f.Keeps "Expr" (partlyRead "int count")) ∧
      ¬ ∃ f, build "Expr" (partlyRead "int value") = .ok f := by
  obtain ⟨accepted, keeps⟩ := build_iff_wellFormed "Expr" (partlyRead "int count")
  obtain ⟨refused, -⟩ := build_iff_wellFormed "Expr" (partlyRead "int value")
  obtain ⟨f, built⟩ := accepted.2 (by decide +kernel)
  exact ⟨⟨f, built, keeps f built⟩, refused.not.2 (by decide +kernel)⟩

end Family

end NodeClasses
