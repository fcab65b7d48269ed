import Mathlib.Data.List.Perm.Basic
import NodeClasses.Proofs.Hierarchy.HeaderNames
import NodeClasses.Proofs.Hierarchy.SourceNames

/-!
# One definition of each type

Families that share a unit declare different types, so each type of the unit is defined by exactly
one line of the header, and each variant is announced, taken by a visitor and given its methods
exactly once: `code_definesOnce`. What a line says of a type comes behind what it relies on: a
variant is announced before its base is defined, and its base is defined before it.
-/

namespace NodeClasses
set_option autoImplicit false

open Text
open scoped List

/-- The names of the variants of the family. -/
def Family.variantNames (f : Family) : List Text := f.variants.map Variant.name

/-- The comparison of texts is lawful. It has a name so that what decides membership among texts
refers to it and brings no proof of its own. -/
local instance lawfulBEq_text : LawfulBEq Text := inferInstance

/-- Each of the names, and no other one, is told by exactly one line of the form. -/
def LineForm.TellsOnce (form : LineForm) (text : Text) (names : List Text) : Prop :=
  ∀ name, form.lineCount text name = if name ∈ names then 1 else 0

theorem LineForm.tellsOnce_of_nodup {form : LineForm} {text : Text} {names : List Text}
    (told : form.names text = names) (nodup : names.Nodup) : form.TellsOnce text names := by
  intro name
  rw [lineCount_eq, told, nodup.count]

/-- The unit defines the types of the families by the rule of one definition. -/
structure DefinesOnce (fs : List Family) (u : CodeUnit) : Prop where
  definition : LineForm.definition.TellsOnce u.header (fs.flatMap Family.typeNames)
  forward : LineForm.forward.TellsOnce u.header (fs.flatMap Family.variantNames)
  visit : LineForm.visit.TellsOnce u.header (fs.flatMap Family.variantNames)
  constructor : LineForm.constructor.TellsOnce u.source (fs.flatMap Family.variantNames)
  accept : LineForm.accept.TellsOnce u.source (fs.flatMap Family.variantNames)
  /-- No base is announced. -/
  bases : ∀ f ∈ fs, LineForm.forward.lineCount u.header f.base = 0
  /-- A variant is announced before its base is defined, which is before the visitor takes it, which
  is before it is defined as derived from that base. -/
  order : ∀ f ∈ fs, ∀ v ∈ f.variants,
    List.Sublist [("struct " ++ v.name ++ ";" : Text),
      "struct " ++ f.base ++ " \x7b",
      "        virtual void visit(const " ++ v.name ++ " &) = 0;",
      "struct " ++ v.name ++ " : " ++ f.base ++ " \x7b"] (linesOf u.header)

namespace Hierarchy

/-- The lines about a node follow each other in this order. -/
theorem order_headerLines {h : Hierarchy} {n : Node} (member : n ∈ h.nodes) :
    [n.forwardLine, h.openingLine, n.visitLine, n.openingLine h.base] <+ h.headerLines := by
  have announced : [n.forwardLine] <+ h.forwardLines :=
    List.singleton_sublist.2 (List.mem_append_left _ (List.mem_map_of_mem member))
  have method : [n.visitLine] <+ h.nodes.map Node.visitLine :=
    List.singleton_sublist.2 (List.mem_map_of_mem member)
  have base : [h.openingLine, n.visitLine] <+ h.baseLines := by
    have opening : [h.openingLine] <+ h.baseOpening :=
      List.singleton_sublist.2 List.mem_cons_self
    exact (opening.append method).trans (List.sublist_append_left _ _)
  have defined : [n.openingLine h.base] <+ h.nodes.flatMap (Node.headerLines h.base) :=
    List.singleton_sublist.2 (List.mem_flatMap.2 ⟨n, member, List.mem_cons_self⟩)
  exact (announced.append base).append defined

end Hierarchy

namespace Table

/-- The lines of the table's source file. -/
def sourceLines (t : Table) (stem : Text) : List Text :=
  ["#include \"" ++ stem ++ CodeUnit.headerEnding ++ "\"", ""] ++
    (t.families.map Family.outline).flatMap Hierarchy.sourceLines

theorem source_of_code {t : Table} {stem : Text} {u : CodeUnit} (coded : t.code stem = .ok u) :
    u.source = ofLines (t.sourceLines stem) := by
  rw [eq_of_code coded, sourceLines, ofLines_append]
  rfl

theorem unbroken_sourceLines {t : Table} {stem : Text} (unbroken : t.Unbroken)
    (inStem : '\n' ∉ stem) : ∀ l ∈ t.sourceLines stem, '\n' ∉ l := by
  rw [sourceLines, List.forall_mem_append]
  constructor
  · simp [inStem, CodeUnit.headerEnding]
  · intro l member
    obtain ⟨h, inside, own⟩ := List.mem_flatMap.1 member
    obtain ⟨f, family, rfl⟩ := List.mem_map.1 inside
    have outline := Family.unbroken_outline (unbroken.families f family)
    exact Hierarchy.unbroken_sourceLines outline l own

/-- A line that is blank or starts an include. -/
def IsPreface (l : Text) : Prop := l = [] ∨ ∃ rest, l = '#' :: rest

section Names

variable {t : Table} {stem : Text} {u : CodeUnit} {form : LineForm}

/-- A form that tells nothing in front of the families tells what it tells of each family. -/
theorem names_header (coded : t.code stem = .ok u) (unbroken : t.Unbroken)
    (silent : ∀ l, IsPreface l → form.name? l = none) :
    form.names u.header =
      t.families.flatMap fun f => f.outline.headerLines.filterMap form.name? := by
  have opening : ∀ l ∈ CodeUnit.headerOpening, IsPreface l := by
    simp [CodeUnit.headerOpening, IsPreface]
  have includes : ∀ l ∈ CodeUnit.includeLines t.includes, IsPreface l := by
    refine List.forall_mem_map.2 fun target _ => .inr ?_
    exact ⟨"include " ++ target, by simp [CodeUnit.includeLine]⟩
  have preface : (CodeUnit.headerOpening ++ CodeUnit.includeLines t.includes ++ [[]]).filterMap
      form.name? = [] := by
    refine List.filterMap_eq_nil_iff.2 fun l member => silent l ?_
    rcases List.mem_append.1 member with (first | last)
    · exact (List.forall_mem_append.2 ⟨opening, includes⟩) l first
    · exact .inl (List.mem_singleton.1 last)
  rw [LineForm.names, header_of_code coded, linesOf_ofLines (unbroken_headerLines unbroken),
    headerLines, List.filterMap_append, preface, List.nil_append, List.filterMap_flatMap,
    List.flatMap_map]

theorem names_source (coded : t.code stem = .ok u) (unbroken : t.Unbroken) (inStem : '\n' ∉ stem)
    (silent : ∀ l, IsPreface l → form.name? l = none) :
    form.names u.source =
      t.families.flatMap fun f => f.outline.sourceLines.filterMap form.name? := by
  have first : form.name? ("#include \"" ++ stem ++ CodeUnit.headerEnding ++ "\"") = none :=
    silent _ (.inr ⟨"include \"" ++ stem ++ CodeUnit.headerEnding ++ "\"", by simp⟩)
  have blank : form.name? ("" : String) = none := silent _ (.inl (by simp))
  rw [LineForm.names, source_of_code coded, linesOf_ofLines (unbroken_sourceLines unbroken inStem),
    sourceLines, List.filterMap_append, List.filterMap_flatMap, List.flatMap_map]
  simp only [List.filterMap_cons, first, blank, List.filterMap_nil, List.nil_append]

end Names

end Table

namespace LineForm

theorem silent_preface_of_opening {form : LineForm} {c : Char} {rest : Text}
    (opening : form.opening = c :: rest) (other : c ≠ '#') :
    ∀ l, Table.IsPreface l → form.name? l = none := by
  rintro l (rfl | ⟨more, rfl⟩)
  · exact name?_eq_none_of_opening (by simp [opening])
  · exact name?_eq_none_of_opening (by simp [opening, other])

theorem silent_preface_constructor : ∀ l, Table.IsPreface l → constructor.name? l = none := by
  rintro l preface
  refine name?_constructor_of_head ?_
  rcases preface with rfl | ⟨more, rfl⟩ <;> simp
  decide

end LineForm

namespace Family

/-- Types that all differ are bases that are no variants, and variants that all differ. -/
theorem nodup_names {fs : List Family} (nodup : (fs.flatMap typeNames).Nodup) :
    (∀ f ∈ fs, f.base ∉ fs.flatMap variantNames) ∧ (fs.flatMap variantNames).Nodup := by
  have split : fs.map Family.base ++ fs.flatMap variantNames ~ fs.flatMap typeNames :=
    List.map_append_flatMap_perm fs Family.base variantNames
  obtain ⟨-, variants, apart⟩ := List.nodup_append.1 (split.nodup_iff.2 nodup)
  refine ⟨fun f member variant => ?_, variants⟩
  exact apart f.base (List.mem_map_of_mem member) f.base variant rfl

end Family

namespace Table

/-- **One definition of each type.** A unit of families that do not clash defines each type once,
behind what announces it, and its methods once. -/
theorem code_definesOnce {t : Table} {stem : Text} {u : CodeUnit} (coded : t.code stem = .ok u)
    (free : t.clash? = none) (unbroken : t.Unbroken) (inStem : '\n' ∉ stem) :
    DefinesOnce t.families u := by
  have nodup := Family.clash?_eq_none_iff.1 free
  obtain ⟨bases, variants⟩ := Family.nodup_names nodup
  have once {form : LineForm} {text : Text} (told : form.names text =
      t.families.flatMap fun f => f.outline.nodes.map Node.name) :
      form.TellsOnce text (t.families.flatMap Family.variantNames) := by
    simp only [Family.nodes_outline] at told
    exact LineForm.tellsOnce_of_nodup told variants
  have struct : ("struct " : Text) = 's' :: ("truct " : Text) := by simp
  have forward : LineForm.forward.TellsOnce u.header (t.families.flatMap Family.variantNames) := by
    refine once ?_
    rw [names_header coded unbroken (LineForm.silent_preface_of_opening struct (by decide))]
    exact List.flatMap_congr fun f _ => LineForm.filterMap_forward f.named_outline
  constructor
  case definition =>
    refine LineForm.tellsOnce_of_nodup ?_ nodup
    rw [names_header coded unbroken (LineForm.silent_preface_of_opening struct (by decide))]
    refine List.flatMap_congr fun f _ => ?_
    rw [LineForm.filterMap_definition f.named_outline, Family.nodes_outline]
    rfl
  case forward => exact forward
  case visit =>
    have indented :
        LineForm.visit.opening = ' ' :: ("       virtual void visit(const " : Text) := by
      simp [LineForm.visit, LineForm.ofEnds]
    refine once ?_
    rw [names_header coded unbroken (LineForm.silent_preface_of_opening indented (by decide))]
    exact List.flatMap_congr fun f _ =>
      LineForm.filterMap_visit f.named_outline f.canonical_outline
  case constructor =>
    refine once ?_
    rw [names_source coded unbroken inStem LineForm.silent_preface_constructor]
    exact List.flatMap_congr fun f _ => Hierarchy.filterMap_constructor f.named_outline.nodes
  case accept =>
    have void : LineForm.accept.opening = 'v' :: ("oid " : Text) := by
      simp [LineForm.accept, LineForm.ofEnds]
    refine once ?_
    rw [names_source coded unbroken inStem
      (LineForm.silent_preface_of_opening void (by decide))]
    exact List.flatMap_congr fun f _ => Hierarchy.filterMap_accept f.named_outline.nodes
  case bases => exact fun f member => (forward f.base).trans (if_neg (bases f member))
  case order =>
    intro f member v variant
    have node : Hierarchy.nodeOf v ∈ f.outline.nodes := List.mem_map_of_mem variant
    have inside :
        f.outline.headerLines ∈ (t.families.map Family.outline).map Hierarchy.headerLines :=
      List.mem_map_of_mem (List.mem_map_of_mem member)
    have family : f.outline.headerLines <+ t.headerLines := by
      rw [headerLines, List.flatMap_def]
      exact (List.sublist_flatten_of_mem inside).trans (List.sublist_append_right _ _)
    rw [header_of_code coded, linesOf_ofLines (unbroken_headerLines unbroken)]
    exact (Hierarchy.order_headerLines node).trans family

/-- Two families of one unit, with a type that imitates the definition of a variant. -/
def imitating : Table :=
  ⟨["<any>"], [⟨"Expr", [⟨"Lit", ["Token value"]⟩], by decide +kernel⟩,
    ⟨"Stmt", [⟨"Print", ["struct Lit : Expr x"]⟩, ⟨"Nop", []⟩], by decide +kernel⟩]⟩

theorem code_definesOnce_imitating :
    ∃ u, imitating.code "ast" = .ok u ∧ DefinesOnce imitating.families u := by
  have free : imitating.clash? = none := by decide +kernel
  have unbroken : imitating.Unbroken :=
    ⟨by decide +kernel, by unfold Family.Unbroken; decide +kernel⟩
  have isCoded : (imitating.code "ast").toOption.isSome = true := by decide +kernel
  obtain ⟨u, coded⟩ := exists_ok_of_isSome isCoded
  exact ⟨u, coded, code_definesOnce coded free unbroken (by decide +kernel)⟩

end Table

end NodeClasses
