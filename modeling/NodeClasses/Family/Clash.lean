import NodeClasses.Family.Basic

/-!
# Types shared by families

Families that are written to the same pair of files must not declare a type twice. `clash?` finds
the first type name that was declared before and names both owners; `clash?_eq_none_iff` says that
it finds none exactly if all type names differ.
-/

namespace NodeClasses.Family
set_option autoImplicit false

/-- The type names that the families declare, in order, each with the base of its family. -/
def declarations (fs : List Family) : List (Text × Text) :=
  fs.flatMap fun f => f.typeNames.map fun name => (name, f.base)

/-- The first declaration of a name that is declared before it, where those in `earlier` come
first. -/
def clashAfter? : List (Text × Text) → List (Text × Text) → Option SchemaError
  | _, [] => none
  | earlier, (name, owner) :: rest =>
    match earlier.lookup name with
    | some first => some (.clashAcrossFamilies name first owner)
    | none => clashAfter? ((name, owner) :: earlier) rest

/-- The first type name that two of the families declare. -/
def clash? (fs : List Family) : Option SchemaError := clashAfter? [] (declarations fs)

theorem clashAfter?_eq_none_iff {earlier rest : List (Text × Text)} :
    clashAfter? earlier rest = none ↔
      (rest.map Prod.fst).Nodup ∧ ∀ d ∈ rest, earlier.lookup d.1 = none := by
  induction rest generalizing earlier with
  | nil => simp [clashAfter?]
  | cons d rest ih =>
    obtain ⟨name, owner⟩ := d
    cases h : earlier.lookup name with
    | some first =>
      simp only [clashAfter?, h, reduceCtorEq, false_iff]
      rintro ⟨-, unseen⟩
      simp only [unseen (name, owner) (by simp), reduceCtorEq] at h
    | none =>
      simp only [clashAfter?, h, ih, List.map_cons, List.nodup_cons, List.mem_map,
        List.forall_mem_cons, List.lookup_cons]
      constructor
      · rintro ⟨nodup, unseen⟩
        refine ⟨⟨?_, nodup⟩, trivial, fun d hd => ?_⟩
        · rintro ⟨d, hd, same⟩
          simpa [same] using unseen d hd
        · have := unseen d hd
          split at this
          · simp at this
          · exact this
      · rintro ⟨⟨absent, nodup⟩, -, unseen⟩
        refine ⟨nodup, fun d hd => ?_⟩
        have ne : (d.1 == name) = false := by
          simpa using fun same => absent ⟨d, hd, same⟩
        simp [ne, unseen d hd]

/-- There is no clash exactly if all the declared type names differ. -/
theorem clash?_eq_none_iff {fs : List Family} :
    clash? fs = none ↔ (fs.flatMap typeNames).Nodup := by
  have names : (declarations fs).map Prod.fst = fs.flatMap typeNames := by
    simp [declarations, List.map_flatMap, Function.comp_def]
  simp [clash?, clashAfter?_eq_none_iff, names]

end NodeClasses.Family
