import NodeClasses.Family.SchemaError
import NodeClasses.Family.Variant

/-!
# Families

A family is a base type and its variants, known to be well formed. `Family.fault?` looks for the
first fault of a base name and a list of variants, in the order in which they are given;
`fault?_eq_none_iff` says that it finds none exactly if they are well formed, and so
`Family.build` makes a family of them.
-/

namespace NodeClasses
set_option autoImplicit false

/-- A base type and its variants, in order. -/
structure Family where
  /-- The name of the base type. -/
  base : Text
  /-- The variants, in the order in which everything generated lists them. -/
  variants : List Variant
  /-- The names are what a family needs. -/
  wellFormed : Family.WellFormed base variants

namespace Family

/-- The fault of a type name. -/
def nameFault? (base name : Text) : Option SchemaError :=
  if Cpp.isIdentifier name = false then some (.invalidIdentifier base name)
  else if name ∈ Cpp.keywords ∨ name = visitorName then some (.reservedWord base name)
  else none

/-- The first fault among field names, where those in `seen` are taken. -/
def fieldFault? (base variant : Text) : List Text → List Text → Option SchemaError
  | _, [] => none
  | seen, name :: names =>
    if IsMemberName base variant name then
      if name ∈ seen then some (.duplicateField variant name)
      else fieldFault? base variant (name :: seen) names
    else some (.reservedWord base name)

/-- The first fault of a variant, where the type names in `seen` are taken. -/
def variantFault? (base : Text) (seen : List Text) (v : Variant) : Option SchemaError :=
  (nameFault? base v.name).or <|
    (if v.name = base then some (.variantNamesBase v.name) else none).or <|
      (fieldFault? base v.name [] v.fieldNames).or <|
        if v.name ∈ seen then some (.duplicateVariant base v.name) else none

/-- The first fault among variants, where the type names in `seen` are taken. -/
def variantsFault? (base : Text) : List Text → List Variant → Option SchemaError
  | _, [] => none
  | seen, v :: vs => (variantFault? base seen v).or (variantsFault? base (v.name :: seen) vs)

/-- The first fault of a base name and its variants. -/
def fault? (base : Text) (variants : List Variant) : Option SchemaError :=
  (nameFault? base base).or <|
    (if variants = [] then some (.emptyFamily base) else none).or (variantsFault? base [] variants)

theorem nameFault?_eq_none_iff {base name : Text} :
    nameFault? base name = none ↔ IsTypeName name := by
  unfold nameFault? IsTypeName
  split
  · next h => simp [h]
  · next h =>
    rw [Bool.not_eq_false] at h
    split
    · next reserved => rcases reserved with h' | h' <;> simp [h']
    · next free =>
      rw [not_or] at free
      simp [h, free]

theorem fieldFault?_eq_none_iff {base variant : Text} {seen names : List Text} :
    fieldFault? base variant seen names = none ↔
      (∀ name ∈ names, IsMemberName base variant name) ∧ names.Nodup ∧
        ∀ name ∈ names, name ∉ seen := by
  induction names generalizing seen with
  | nil => simp [fieldFault?]
  | cons name names ih =>
    unfold fieldFault?
    split
    · next free =>
      split
      · next taken => simp [taken]
      · next fresh =>
        rw [ih]
        constructor
        · rintro ⟨members, nodup, unseen⟩
          refine ⟨by simpa [free] using members, List.nodup_cons.2 ⟨fun h => ?_, nodup⟩, ?_⟩
          · exact unseen name h (by simp)
          · intro other h
            rcases List.mem_cons.1 h with rfl | h
            · exact fresh
            · exact fun hs => unseen other h (List.mem_cons_of_mem _ hs)
        · rintro ⟨members, nodup, unseen⟩
          obtain ⟨absent, nodup⟩ := List.nodup_cons.1 nodup
          refine ⟨fun other h => members other (List.mem_cons_of_mem _ h), nodup, ?_⟩
          intro other h hs
          rcases List.mem_cons.1 hs with rfl | hs
          · exact absent h
          · exact unseen other (List.mem_cons_of_mem _ h) hs
    · next taken => simp [taken]

theorem variantFault?_eq_none_iff {base : Text} {seen : List Text} {v : Variant} :
    variantFault? base seen v = none ↔ v.WellFormed base ∧ v.name ∉ seen := by
  simp only [variantFault?, Option.or_eq_none_iff, nameFault?_eq_none_iff, fieldFault?_eq_none_iff,
    ite_eq_right_iff, reduceCtorEq, imp_false]
  constructor
  · rintro ⟨typeName, ne, ⟨members, nodup, -⟩, fresh⟩
    exact ⟨.of_fieldNames typeName ne members nodup, fresh⟩
  · rintro ⟨h, fresh⟩
    exact ⟨h.typeName, h.ne_base, ⟨h.memberNames, h.fieldNames_nodup, by simp⟩, fresh⟩

theorem variantsFault?_eq_none_iff {base : Text} {seen : List Text} {vs : List Variant} :
    variantsFault? base seen vs = none ↔
      (∀ v ∈ vs, v.WellFormed base) ∧ (vs.map Variant.name).Nodup ∧ ∀ v ∈ vs, v.name ∉ seen := by
  induction vs generalizing seen with
  | nil => simp [variantsFault?]
  | cons v vs ih =>
    simp only [variantsFault?, Option.or_eq_none_iff, variantFault?_eq_none_iff, ih, List.map_cons,
      List.nodup_cons, List.mem_map, List.forall_mem_cons]
    simp only [List.mem_cons, not_or]
    constructor
    · rintro ⟨⟨first, fresh⟩, rest, nodup, unseen⟩
      refine ⟨⟨first, rest⟩, ⟨?_, nodup⟩, fresh, fun w hw => (unseen w hw).2⟩
      rintro ⟨w, hw, same⟩
      exact (unseen w hw).1 same
    · rintro ⟨⟨first, rest⟩, ⟨absent, nodup⟩, fresh, unseen⟩
      exact ⟨⟨first, fresh⟩, rest, nodup,
        fun w hw => ⟨fun same => absent ⟨w, hw, same⟩, unseen w hw⟩⟩

/-- No fault is found exactly if the family is well formed. -/
theorem fault?_eq_none_iff {base : Text} {variants : List Variant} :
    fault? base variants = none ↔ WellFormed base variants := by
  simp only [fault?, Option.or_eq_none_iff, nameFault?_eq_none_iff, variantsFault?_eq_none_iff,
    ite_eq_right_iff, reduceCtorEq, imp_false]
  constructor
  · rintro ⟨typeName, nonempty, variants, nodup, -⟩
    exact ⟨typeName, nonempty, variants, nodup⟩
  · intro h
    exact ⟨h.typeName, h.nonempty, h.variantsWellFormed, h.names_nodup, by simp⟩

instance (base : Text) (variants : List Variant) : Decidable (WellFormed base variants) :=
  decidable_of_decidable_of_iff fault?_eq_none_iff

/-- Makes a family of a base name and variants, or tells their first fault. -/
def build (base : Text) (variants : List Variant) : Except SchemaError Family :=
  match h : fault? base variants with
  | some e => .error e
  | none => .ok ⟨base, variants, fault?_eq_none_iff.1 h⟩

/-- Building succeeds exactly if the base and the variants make a family, and changes neither. -/
theorem build_eq_ok_iff {base : Text} {variants : List Variant} {f : Family} :
    build base variants = .ok f ↔ f.base = base ∧ f.variants = variants := by
  obtain ⟨base', variants', wellFormed⟩ := f
  unfold build
  split
  · next e fault =>
    refine iff_of_false (by simp) ?_
    rintro ⟨rfl, rfl⟩
    simp [fault?_eq_none_iff.2 wellFormed] at fault
  · simp [eq_comm]

/-- The variant with the given name. -/
def variant? (f : Family) (name : Text) : Option Variant := f.variants.find? fun v => v.name == name

/-- The number of variants. -/
def size (f : Family) : Nat := f.variants.length

/-- The names of the types that the family declares: its base, then its variants. -/
def typeNames (f : Family) : List Text := f.base :: f.variants.map Variant.name

/-- The types of one family have different names. -/
theorem typeNames_nodup (f : Family) : f.typeNames.Nodup := by
  refine List.nodup_cons.2 ⟨?_, f.wellFormed.names_nodup⟩
  intro h
  obtain ⟨v, hv, same⟩ := List.mem_map.1 h
  exact (f.wellFormed.variantsWellFormed v hv).ne_base same

/-- A family has a variant. -/
theorem size_pos (f : Family) : 0 < f.size := List.length_pos_iff.2 f.wellFormed.nonempty

end Family

end NodeClasses
