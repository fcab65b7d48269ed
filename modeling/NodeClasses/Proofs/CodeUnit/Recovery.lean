import Mathlib.Data.List.Forall2
import NodeClasses.Job
import NodeClasses.Proofs.Hierarchy.Delimited
import NodeClasses.Proofs.Hierarchy.Malformed

/-!
# What a header tells

If no include and no type of a field is broken over lines, the header of a table tells the includes,
apart from the one that every header has, and the families with their variants and fields:
`Table.header_eq_iff`. It tells nothing else.
-/

namespace NodeClasses
set_option autoImplicit false

open Text

namespace Node

/-- The name and the declarations of the node are on one line each. -/
structure Unbroken (n : Node) : Prop where
  name : '\n' ∉ n.name
  fields : ∀ f ∈ n.fields, '\n' ∉ f.declaration

theorem unbroken_memberLines {n : Node} (h : n.Unbroken) : ∀ l ∈ n.memberLines, '\n' ∉ l := by
  refine forall_mem_memberLines (by simp) ?_
  intro f member
  simp [Field.memberLine, h.fields f member]

theorem unbroken_headerLines {base : Text} {n : Node} (unbroken : '\n' ∉ base) (h : n.Unbroken) :
    ∀ l ∈ n.headerLines base, '\n' ∉ l := by
  have parameters : '\n' ∉ n.parameters :=
    notMem_intercalate (by simp) (by simpa using h.fields)
  have members := unbroken_memberLines h
  simp only [headerLines, List.cons_append, List.forall_mem_cons, List.forall_mem_append]
  refine ⟨?_, members, ?_, ?_⟩
  · simp [openingLine, h.name, unbroken]
  · simp [constructorLine, h.name, parameters]
  · simp [closingLines, h.name, acceptName, visitorName]

end Node

/-- The names and the declarations of the hierarchy are on one line each. -/
structure Hierarchy.Unbroken (h : Hierarchy) : Prop where
  base : '\n' ∉ h.base
  nodes : ∀ n ∈ h.nodes, n.Unbroken

theorem Hierarchy.unbroken_headerLines {h : Hierarchy} (unbroken : h.Unbroken) :
    ∀ l ∈ h.headerLines, '\n' ∉ l := by
  have names : ∀ n ∈ h.nodes, '\n' ∉ n.name := fun n member => (unbroken.nodes n member).name
  simp only [headerLines, forwardLines, baseLines, List.forall_mem_append, List.forall_mem_map]
  refine ⟨⟨⟨fun n member => ?_, by simp⟩, ⟨?_, fun n member => ?_⟩, ?_⟩, ?_⟩
  · simp [Node.forwardLine, names n member]
  · simp [baseOpening, visitorName, unbroken.base]
  · simp [Node.visitLine, names n member]
  · simp [baseClosing, visitorName, acceptName, unbroken.base]
  · intro l member
    obtain ⟨n, inside, member⟩ := List.mem_flatMap.1 member
    exact Node.unbroken_headerLines unbroken.base (unbroken.nodes n inside) l member

theorem exists_ok_of_isSome {ε α : Type} {result : Except ε α}
    (isOk : result.toOption.isSome = true) : ∃ a, result = .ok a := by
  cases result with
  | error e => cases isOk
  | ok a => exact ⟨a, rfl⟩

namespace Family

/-- The hierarchy of the entries that can be read. -/
def outline (f : Family) : Hierarchy := ⟨f.base, f.variants.map Hierarchy.nodeOf⟩

/-- The families have the same base, the same variants in name and order, and each variant has the
same fields, with the same kinds. -/
structure Agrees (f g : Family) : Prop where
  base : f.base = g.base
  names : f.variants.map Variant.name = g.variants.map Variant.name
  fields : f.variants.map Variant.fields = g.variants.map Variant.fields
  kinds : (f.variants.map fun v => v.fields.map Field.kind) =
    g.variants.map fun v => v.fields.map Field.kind

/-- Every type of a field in the family is on one line. -/
def Unbroken (f : Family) : Prop := ∀ v ∈ f.variants, ∀ d ∈ v.fields, '\n' ∉ d.type

theorem map_nodeOf (vs : List Variant) :
    vs.map Hierarchy.nodeOf =
      List.zipWith Node.mk (vs.map Variant.name) (vs.map Variant.fields) := by
  induction vs with
  | nil => rfl
  | cons v vs ih => rw [List.map_cons, ih]; rfl

theorem outline_eq_iff {f g : Family} : f.outline = g.outline ↔ f.Agrees g := by
  constructor
  · intro same
    obtain ⟨base, nodes⟩ := Hierarchy.mk.inj same
    have names := congrArg (List.map Node.name) nodes
    have fields := congrArg (List.map Node.fields) nodes
    have kinds := congrArg (List.map (List.map Field.kind)) fields
    simp only [List.map_map] at names fields kinds
    exact ⟨base, names, fields, kinds⟩
  · intro agrees
    rw [outline, outline, agrees.base, map_nodeOf, map_nodeOf, agrees.names, agrees.fields]

theorem nodes_outline (f : Family) :
    f.outline.nodes.map Node.name = f.variants.map Variant.name := by
  rw [outline, List.map_map]
  rfl

/-- A family that can be coded is coded as its outline. -/
theorem eq_of_code {f : Family} {u : CodeUnit} (coded : f.code = .ok u) : u = f.outline.code := by
  cases read : Hierarchy.ofFamily f with
  | error e => simp [code, read, Except.map] at coded
  | ok h =>
    obtain rfl : h.code = u := by simpa [code, read, Except.map] using coded
    rw [Hierarchy.eq_of_ofFamily read]
    rfl

theorem canonical_outline (f : Family) : f.outline.Canonical := by
  intro n member d inside
  obtain ⟨v, -, rfl⟩ := List.mem_map.1 member
  obtain ⟨entry, -, read⟩ := List.mem_filterMap.1 inside
  exact Field.canonical_of_parse? read

theorem unbroken_outline {f : Family} (unbroken : f.Unbroken) : f.outline.Unbroken := by
  have typeName {name : Text} (h : IsTypeName name) : '\n' ∉ name := by
    intro member
    exact absurd (Cpp.isBlank_of_mem h.1 member) (by decide)
  refine ⟨typeName f.wellFormed.typeName, fun n member => ?_⟩
  obtain ⟨v, inside, rfl⟩ := List.mem_map.1 member
  refine ⟨typeName (f.wellFormed.variantsWellFormed v inside).typeName, fun d field => ?_⟩
  have canonical := canonical_outline f _ member d field
  exact canonical.declaration_unbroken (unbroken v inside d field)

end Family

namespace Table

/-- No include and no type of a field is broken over lines. -/
structure Unbroken (t : Table) : Prop where
  includes : ∀ target ∈ t.includes, '\n' ∉ target
  families : ∀ f ∈ t.families, f.Unbroken

/-- The lines of the table's header. -/
def headerLines (t : Table) : List Text :=
  CodeUnit.headerOpening ++ CodeUnit.includeLines t.includes ++ [[]] ++
    (t.families.map Family.outline).flatMap Hierarchy.headerLines

/-- A table that can be coded is coded as the outlines of its families. -/
theorem eq_of_code {t : Table} {stem : Text} {u : CodeUnit} (coded : t.code stem = .ok u) :
    u = (CodeUnit.start stem t.includes).appendAll (t.families.map Family.outline) := by
  obtain ⟨hs, read, rfl⟩ := CodeUnit.pushAll_eq_ok_iff.1 coded
  have outlines : t.families.map Family.outline = hs := by
    rw [← List.forall₂_eq_eq_eq, List.forall₂_map_left_iff, List.forall₂_map_right_iff] at read
    rw [← List.forall₂_eq_eq_eq, List.forall₂_map_left_iff]
    exact read.imp fun f h own => (Hierarchy.eq_of_ofFamily own).symm
  rw [outlines]

theorem header_of_code {t : Table} {stem : Text} {u : CodeUnit} (coded : t.code stem = .ok u) :
    u.header = ofLines t.headerLines := by
  rw [eq_of_code coded, headerLines, ofLines_append]
  rfl

theorem unbroken_headerLines {t : Table} (unbroken : t.Unbroken) :
    ∀ l ∈ t.headerLines, '\n' ∉ l := by
  simp only [headerLines, List.forall_mem_append]
  refine ⟨⟨⟨?_, ?_⟩, by simp⟩, ?_⟩
  · simp [CodeUnit.headerOpening]
  · simp only [CodeUnit.includeLines, List.forall_mem_map, List.forall_mem_cons]
    refine ⟨by simp [CodeUnit.includeLine, CodeUnit.ownInclude], fun target member => ?_⟩
    have kept := unbroken.includes target (List.mem_filter.1 member).1
    simp [CodeUnit.includeLine, kept]
  · intro l member
    obtain ⟨h, inside, own⟩ := List.mem_flatMap.1 member
    obtain ⟨f, family, rfl⟩ := List.mem_map.1 inside
    have outline := Family.unbroken_outline (unbroken.families f family)
    exact Hierarchy.unbroken_headerLines outline l own

/-- The includes end in a blank line, and the families are recovered behind it. -/
theorem headerLines_inj {t t' : Table} (same : t.headerLines = t'.headerLines) :
    t.includes.filter (· ≠ CodeUnit.ownInclude) = t'.includes.filter (· ≠ CodeUnit.ownInclude) ∧
      t.families.map Family.outline = t'.families.map Family.outline := by
  have block : Delimited (fun targets : List Text => ∀ target ∈ targets, True) fun targets =>
      targets.map CodeUnit.includeLine ++ [[]] := by
    refine delimited_block (fun x y _ _ same => ?_) fun x _ => by simp [CodeUnit.includeLine]
    exact List.append_cancel_left same
  have canonical (t : Table) : ∀ h ∈ t.families.map Family.outline, h.Canonical := by
    rw [List.forall_mem_map]
    exact fun f _ => Family.canonical_outline f
  unfold headerLines at same
  simp only [List.append_assoc, List.append_right_inj] at same
  obtain ⟨includes, families⟩ := block (by simp) (by simp) _ _ (by simpa only [List.append_assoc])
  exact ⟨List.tail_eq_of_cons_eq includes, Hierarchy.delimited_headerLines.flatMap_inj
    Hierarchy.headerLines_ne_nil (canonical t) (canonical t') families⟩

/-- **The header determines the table.** Two tables are coded with the same header exactly if they
have the same includes, apart from the one that is always there, and families that agree. -/
theorem header_eq_iff {t t' : Table} {stem stem' : Text} {u v : CodeUnit}
    (coded : t.code stem = .ok u) (coded' : t'.code stem' = .ok v) (unbroken : t.Unbroken)
    (unbroken' : t'.Unbroken) :
    u.header = v.header ↔
      t.includes.filter (· ≠ CodeUnit.ownInclude) = t'.includes.filter (· ≠ CodeUnit.ownInclude) ∧
        List.Forall₂ Family.Agrees t.families t'.families := by
  have agree : List.Forall₂ Family.Agrees t.families t'.families ↔
      t.families.map Family.outline = t'.families.map Family.outline := by
    rw [← List.forall₂_eq_eq_eq, List.forall₂_map_left_iff, List.forall₂_map_right_iff]
    simp only [Family.outline_eq_iff]
  rw [header_of_code coded, header_of_code coded', agree,
    ofLines_inj (unbroken_headerLines unbroken) (unbroken_headerLines unbroken')]
  constructor
  · exact headerLines_inj
  · rintro ⟨includes, families⟩
    rw [headerLines, headerLines, CodeUnit.includeLines, CodeUnit.includeLines, includes, families]

/-- A table that is written with more blanks than needed, and with the include of every header. -/
def spacious : Table :=
  ⟨["<any>", "<utility>"], [⟨"Expr", [⟨"Leaf", [" Token  *value"]⟩], by decide +kernel⟩]⟩

/-- The same table without them. -/
def concise : Table := ⟨["<any>"], [⟨"Expr", [⟨"Leaf", ["Token *value"]⟩], by decide +kernel⟩]⟩

theorem header_eq_iff_blanks : List.Forall₂ Family.Agrees spacious.families concise.families := by
  have headers : (spacious.code []).toOption.map CodeUnit.header =
      (concise.code []).toOption.map CodeUnit.header := by decide +kernel
  have isCoded : (spacious.code []).toOption.isSome = true := by decide +kernel
  have unbroken : spacious.Unbroken :=
    ⟨by decide +kernel, by unfold Family.Unbroken; decide +kernel⟩
  have unbroken' : concise.Unbroken :=
    ⟨by decide +kernel, by unfold Family.Unbroken; decide +kernel⟩
  rcases coded : spacious.code [] with e | u
  · simp [coded, Except.toOption] at isCoded
  · rcases coded' : concise.code [] with e | v
    · simp [coded, coded', Except.toOption] at headers
    · have same : u.header = v.header := by
        simpa [coded, coded', Except.toOption] using headers
      exact ((header_eq_iff coded coded' unbroken unbroken').1 same).2

end Table

end NodeClasses
