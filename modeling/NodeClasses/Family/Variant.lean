import NodeClasses.Field.Basic

/-!
# Variants and the names in a family

A variant is one kind of node: a name and the entries of its members. The generated code takes the
names `Visitor` and `accept` for itself. `Family.WellFormed` says what is asked of the names of a
family, apart from any procedure that checks it.
-/

namespace NodeClasses
set_option autoImplicit false

/-- The name of the visitor interface inside every base type. -/
def visitorName : Text := "Visitor"

/-- The name of the method that hands a node to a visitor. -/
def acceptName : Text := "accept"

/-- One kind of node of a family. -/
structure Variant where
  /-- The name of the generated type. -/
  name : Text
  /-- The entries of the members, as written and in order. -/
  entries : List Text
  deriving DecidableEq, Repr

namespace Variant

/-- The fields of those entries that can be read. -/
def fields (v : Variant) : List Field := v.entries.filterMap Field.parse?

/-- The names of those fields. -/
def fieldNames (v : Variant) : List Text := v.fields.map Field.name

theorem mem_fieldNames_iff {v : Variant} {name : Text} :
    name ∈ v.fieldNames ↔
      ∃ entry ∈ v.entries, ∃ f, Field.parse? entry = some f ∧ f.name = name := by
  simp only [fieldNames, fields, List.mem_map, List.mem_filterMap]
  constructor
  · rintro ⟨f, ⟨entry, inside, read⟩, named⟩
    exact ⟨entry, inside, f, read, named⟩
  · rintro ⟨entry, inside, f, read, named⟩
    exact ⟨f, ⟨entry, inside, read⟩, named⟩

theorem fieldNames_nodup_iff {v : Variant} :
    v.fieldNames.Nodup ↔ v.entries.Pairwise fun entry later =>
      ∀ f, Field.parse? entry = some f → ∀ g, Field.parse? later = some g → f.name ≠ g.name := by
  rw [List.Nodup, fieldNames, fields, List.pairwise_map, List.pairwise_filterMap]

end Variant

/-- May a generated type have this name? -/
def IsTypeName (name : Text) : Prop :=
  Cpp.isIdentifier name = true ∧ name ∉ Cpp.keywords ∧ name ≠ visitorName

instance (name : Text) : Decidable (IsTypeName name) :=
  inferInstanceAs (Decidable (_ ∧ _ ∧ _))

/-- May a member of the variant of that family have this name? -/
def IsMemberName (base variant name : Text) : Prop :=
  name ∉ Cpp.keywords ∧ name ≠ acceptName ∧ name ≠ visitorName ∧ name ≠ base ∧ name ≠ variant

instance (base variant name : Text) : Decidable (IsMemberName base variant name) :=
  inferInstanceAs (Decidable (_ ∧ _ ∧ _ ∧ _ ∧ _))

/-- The variant has a type name other than its base, and the entries that can be read have member
names, no two of them the same. Entries that cannot be read put no demand on it. -/
structure Variant.WellFormed (base : Text) (v : Variant) : Prop where
  typeName : IsTypeName v.name
  ne_base : v.name ≠ base
  isMemberName : ∀ entry ∈ v.entries, ∀ f, Field.parse? entry = some f →
    IsMemberName base v.name f.name
  names_ne : v.entries.Pairwise fun entry later =>
    ∀ f, Field.parse? entry = some f → ∀ g, Field.parse? later = some g → f.name ≠ g.name

/-- A base name and variants that make a family: there is a variant, each is well formed, and no two
have one name. -/
structure Family.WellFormed (base : Text) (variants : List Variant) : Prop where
  typeName : IsTypeName base
  nonempty : variants ≠ []
  variantsWellFormed : ∀ v ∈ variants, v.WellFormed base
  names_nodup : (variants.map Variant.name).Nodup

namespace Variant.WellFormed

variable {base : Text} {v : Variant}

theorem memberNames (h : v.WellFormed base) :
    ∀ name ∈ v.fieldNames, IsMemberName base v.name name := by
  intro name member
  obtain ⟨entry, inside, f, read, rfl⟩ := mem_fieldNames_iff.1 member
  exact h.isMemberName entry inside f read

theorem fieldNames_nodup (h : v.WellFormed base) : v.fieldNames.Nodup :=
  fieldNames_nodup_iff.2 h.names_ne

/-- What is asked of the entries, told by the list of the names that are read from them. -/
theorem of_fieldNames (typeName : IsTypeName v.name) (ne_base : v.name ≠ base)
    (memberNames : ∀ name ∈ v.fieldNames, IsMemberName base v.name name)
    (nodup : v.fieldNames.Nodup) : v.WellFormed base where
  typeName := typeName
  ne_base := ne_base
  isMemberName entry inside f read :=
    memberNames f.name (mem_fieldNames_iff.2 ⟨entry, inside, f, read, rfl⟩)
  names_ne := fieldNames_nodup_iff.1 nodup

end Variant.WellFormed

end NodeClasses
