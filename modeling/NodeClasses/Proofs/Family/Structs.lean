import NodeClasses.CodeUnit
import NodeClasses.Proofs.Hierarchy.Declarations

/-!
# Names of structs and of their members

A struct of C++ must not give its own name to a member. The names of a well formed family are
checked one by one, and the checks leave out two names of the generated code: a base or a variant
may be called `accept`, and a variant `visit`. `namesApart_iff` says that nothing else goes wrong.
-/

namespace NodeClasses
set_option autoImplicit false

open Text

namespace Hierarchy

/-- No name in the header gets in the way of another one. -/
structure NamesApart (h : Hierarchy) : Prop where
  /-- No struct gives its own name to a member. -/
  own : ∀ s ∈ h.structs, s.name ∉ s.members
  /-- The members of a node are all different. -/
  distinct : ∀ n ∈ h.nodes, ∀ s ∈ (n.struct h.base).structs, s.members.Nodup
  /-- No node is named like the methods that take nodes. -/
  visitor : ∀ n ∈ h.nodes, n.name ≠ visitName

theorem names_fieldMembers (n : Node) :
    n.fieldMembers.filterMap Declaration.name? = n.fields.map Field.name := by
  have named : Declaration.name? ∘ Field.member = some ∘ Field.name := rfl
  unfold Node.fieldMembers
  split
  · next none => rw [none]; rfl
  · rw [List.filterMap_append, List.filterMap_map, named, List.filterMap_eq_map]
    exact List.append_nil _

theorem structs_fieldMembers (n : Node) : n.fieldMembers.flatMap Declaration.structs = [] := by
  unfold Node.fieldMembers
  split
  · rfl
  · simp [List.flatMap_map, Field.member, Declaration.structs]

theorem structs_struct (base : Text) (n : Node) :
    (n.struct base).structs = [⟨n.name, n.fields.map Field.name ++ [acceptName]⟩] := by
  rw [Node.struct, Declaration.structs, Declaration.structsAll_eq_flatMap, List.filterMap_append,
    names_fieldMembers, List.flatMap_append, structs_fieldMembers]
  rfl

theorem structs_visitorStruct (h : Hierarchy) :
    h.visitorStruct.structs = [⟨visitorName, h.nodes.map fun _ => visitName⟩] := by
  have named : Declaration.name? ∘ Node.visitMethod = some ∘ fun _ => visitName := rfl
  have inner : (h.nodes.map Node.visitMethod).flatMap Declaration.structs = [] := by
    simp [List.flatMap_map, Node.visitMethod, Declaration.structs]
  rw [visitorStruct, Declaration.structs, Declaration.structsAll_eq_flatMap,
    List.filterMap_append, List.filterMap_map, named, List.filterMap_eq_map, List.flatMap_append,
    inner]
  exact congrArg (fun members => [Struct.mk visitorName members]) (List.append_nil _)

/-- The structs of a header are the base, the visitor, and one for each node. -/
theorem structs_eq (h : Hierarchy) :
    h.structs = ⟨h.base, [visitorName, acceptName]⟩ ::
      ⟨visitorName, h.nodes.map fun _ => visitName⟩ ::
        h.nodes.map fun n => ⟨n.name, n.fields.map Field.name ++ [acceptName]⟩ := by
  have base : h.baseStruct.structs =
      ⟨h.base, [visitorName, acceptName]⟩ :: h.visitorStruct.structs := by
    rw [baseStruct, Declaration.structs, Declaration.structsAll, Declaration.structsAll_eq_flatMap]
    exact congrArg _ (List.append_nil _)
  rw [structs, declarations, List.flatMap_cons, base, structs_visitorStruct, List.flatMap_map]
  simp only [structs_struct, ← List.map_eq_flatMap, List.cons_append, List.nil_append]

theorem visitName_ne_visitorName : visitName ≠ visitorName := by decide +kernel

/-- Struct by struct, this is what it takes to keep the names apart. -/
theorem namesApart_iff_members {h : Hierarchy} :
    h.NamesApart ↔
      (h.base ≠ visitorName ∧ h.base ≠ acceptName) ∧
        ∀ n ∈ h.nodes, n.name ∉ n.fields.map Field.name ++ [acceptName] ∧
          (n.fields.map Field.name ++ [acceptName]).Nodup ∧ n.name ≠ visitName := by
  have own : (∀ s ∈ h.structs, s.name ∉ s.members) ↔
      (h.base ≠ visitorName ∧ h.base ≠ acceptName) ∧
        ∀ n ∈ h.nodes, n.name ∉ n.fields.map Field.name ++ [acceptName] := by
    have visitor : visitorName ∉ h.nodes.map fun _ => visitName := by
      intro member
      obtain ⟨n, -, same⟩ := List.mem_map.1 member
      exact visitName_ne_visitorName same
    simp only [structs_eq, List.forall_mem_cons, List.forall_mem_map]
    rw [and_iff_right visitor]
    simp
  constructor
  · intro apart
    obtain ⟨base, nodes⟩ := own.1 apart.own
    refine ⟨base, fun n member => ⟨nodes n member, ?_, apart.visitor n member⟩⟩
    exact apart.distinct n member _ (by rw [structs_struct]; exact List.mem_singleton_self _)
  · rintro ⟨base, nodes⟩
    refine ⟨own.2 ⟨base, fun n member => (nodes n member).1⟩, fun n member => ?_,
      fun n member => (nodes n member).2.2⟩
    rw [structs_struct, List.forall_mem_singleton]
    exact (nodes n member).2.1

end Hierarchy

theorem Variant.WellFormed.name_notMem_fieldNames {base : Text} {v : Variant}
    (h : v.WellFormed base) : v.name ∉ v.fieldNames := by
  intro member
  obtain ⟨-, -, -, -, own⟩ := h.memberNames _ member
  exact own rfl

/-- The fields of a variant and its `accept` have different names. -/
theorem Variant.WellFormed.members_nodup {base : Text} {v : Variant} (h : v.WellFormed base) :
    (v.fieldNames ++ [acceptName]).Nodup := by
  have accept : acceptName ∉ v.fieldNames := by
    intro member
    obtain ⟨-, free, -⟩ := h.memberNames _ member
    exact free rfl
  refine List.nodup_append.2 ⟨h.fieldNames_nodup, by simp, ?_⟩
  rintro name member other last rfl
  obtain rfl := List.mem_singleton.1 last
  exact accept member

/-- **Names in a header.** The header of a well formed family has exactly the declared structs
behind its forward declarations, and their names are apart exactly if the base is not called
`accept` and no variant is called `accept` or `visit`. -/
theorem Family.namesApart_iff {f : Family} {u : CodeUnit} (coded : f.code = .ok u) :
    ∃ h, Hierarchy.ofFamily f = .ok h ∧
      u.header = ofLines (h.forwardLines ++ Declaration.linesAll [] h.declarations) ∧
      (h.NamesApart ↔
        f.base ≠ acceptName ∧ ∀ v ∈ f.variants, v.name ≠ acceptName ∧ v.name ≠ visitName) := by
  cases read : Hierarchy.ofFamily f with
  | error e => simp [Family.code, read, Except.map] at coded
  | ok h =>
    have text : h.code = u := by simpa [Family.code, read, Except.map] using coded
    refine ⟨h, rfl, by rw [← text, Hierarchy.code, h.headerLines_eq], ?_⟩
    obtain rfl := Hierarchy.eq_of_ofFamily read
    rw [Hierarchy.namesApart_iff_members]
    constructor
    · rintro ⟨base, nodes⟩
      refine ⟨base.2, fun v member => ?_⟩
      obtain ⟨own, -, visit⟩ := nodes _ (List.mem_map_of_mem member)
      exact ⟨fun same => own (List.mem_append_right _ (List.mem_singleton.2 same)), visit⟩
    · rintro ⟨base, variants⟩
      refine ⟨⟨f.wellFormed.typeName.2.2, base⟩, List.forall_mem_map.2 fun v member => ?_⟩
      have wellFormed := f.wellFormed.variantsWellFormed v member
      obtain ⟨accept, visit⟩ := variants v member
      refine ⟨fun own => ?_, wellFormed.members_nodup, visit⟩
      rcases List.mem_append.1 own with field | last
      · exact wellFormed.name_notMem_fieldNames field
      · exact accept (List.mem_singleton.1 last)

/-- A family whose names are apart. -/
def apartFamily : Family := ⟨"Expr", [⟨"Leaf", ["Token value"]⟩], by decide +kernel⟩

theorem apartFamily_namesApart :
    ∃ h, Hierarchy.ofFamily apartFamily = .ok h ∧ h.NamesApart := by
  have coded : apartFamily.code.toOption.isSome = true := by decide +kernel
  cases code : apartFamily.code with
  | error e => simp [code, Except.toOption] at coded
  | ok u =>
    obtain ⟨h, read, -, apart⟩ := Family.namesApart_iff code
    exact ⟨h, read, apart.2 (by decide +kernel)⟩

/-- A well formed family may give a struct its own name to declare: here its base is `accept`. -/
theorem not_namesApart :
    ¬ ∀ (f : Family) (h : Hierarchy), Hierarchy.ofFamily f = .ok h → h.NamesApart := by
  intro apart
  have base : Family.WellFormed "accept" [⟨"Leaf", []⟩] := by decide +kernel
  have bad := (apart ⟨"accept", [⟨"Leaf", []⟩], base⟩ ⟨"accept", [⟨"Leaf", []⟩]⟩ rfl).own
  have accept : (⟨"accept", [visitorName, acceptName]⟩ : Struct) ∈
      Hierarchy.structs ⟨"accept", [⟨"Leaf", []⟩]⟩ := by
    rw [Hierarchy.structs_eq]
    exact List.mem_cons_self
  exact bad _ accept (by decide +kernel)

end NodeClasses
