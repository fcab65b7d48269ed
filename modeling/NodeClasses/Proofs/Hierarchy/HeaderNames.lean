import Mathlib.Data.List.Basic
import NodeClasses.Proofs.CodeUnit.Recovery
import NodeClasses.Proofs.Cpp.LineForm

/-!
# Names told by the lines of a header

A header names each type in several places: where it is announced, where the visitor takes it, and
where its definition is opened. All other lines are indented, blank or closing, whatever types the
fields have, and tell nothing (`SilentInside`). So each form of lines tells the names of the nodes
in their order, and the definitions have the base in front of them.
-/

namespace NodeClasses
set_option autoImplicit false

open Text

namespace LineForm

/-- Announces a type. -/
def forward : LineForm := ofEnds "struct " ";" (by simp; decide)

/-- Declares the visitor's method for a type. -/
def visit : LineForm := ofEnds "        virtual void visit(const " " &) = 0;" (by simp; decide)

/-- Opens the definition of a type, whatever is said between its name and its body. -/
def definition : LineForm where
  opening := "struct "
  closes _ tail := List.isPrefixOf " " tail && List.isSuffixOf "\x7b" tail
  apart _ tail closed := by
    obtain ⟨rest, rfl⟩ := List.isPrefixOf_iff_prefix.1 (Bool.and_eq_true_iff.1 closed).1
    simp
    decide

/-- Opens the definition of a type that is derived from the base. -/
def derived (base : Text) : LineForm :=
  ofEnds "struct " (" : " ++ base ++ " \x7b") (by simp; decide)

end LineForm

/-- The line that opens the definition of the visitor. -/
def visitorOpening : Text := "    struct " ++ visitorName ++ " \x7b"

namespace Hierarchy

/-- The names of the types are names of C++. -/
structure Named (h : Hierarchy) : Prop where
  base : Cpp.isIdentifier h.base = true
  nodes : ∀ n ∈ h.nodes, Cpp.isIdentifier n.name = true

/-- The line that opens the definition of the base type. -/
def openingLine (h : Hierarchy) : Text := "struct " ++ h.base ++ " \x7b"

end Hierarchy

theorem Family.named_outline (f : Family) : f.outline.Named := by
  refine ⟨f.wellFormed.typeName.1, List.forall_mem_map.2 fun v member => ?_⟩
  exact (f.wellFormed.variantsWellFormed v member).typeName.1

namespace Node

/-- The lines of a node behind the one that opens its definition. -/
def innerLines (n : Node) : List Text := n.memberLines ++ n.constructorLine :: n.closingLines

end Node

namespace LineForm

/-- The form tells nothing in the blank lines, in the lines that only the visitor or the base has,
or inside the definition of a node. -/
structure SilentInside (form : LineForm) (h : Hierarchy) : Prop where
  base : ∀ l ∈ [] :: visitorOpening :: h.baseClosing, form.name? l = none
  nodes : ∀ n ∈ h.nodes, ∀ l ∈ n.innerLines, form.name? l = none

variable {form : LineForm} {h : Hierarchy}

theorem filterMap_headerLines (silent : form.SilentInside h) :
    h.headerLines.filterMap form.name? =
      h.nodes.filterMap (fun n => form.name? n.forwardLine) ++
        ((form.name? h.openingLine).toList ++
          (h.nodes.filterMap (fun n => form.name? n.visitLine) ++
            h.nodes.filterMap fun n => form.name? (n.openingLine h.base))) := by
  obtain ⟨blank, visitor, closing⟩ : form.name? [] = none ∧ form.name? visitorOpening = none ∧
      ∀ l ∈ h.baseClosing, form.name? l = none := by
    simpa using silent.base
  have forward : h.forwardLines.filterMap form.name? =
      h.nodes.filterMap fun n => form.name? n.forwardLine := by
    rw [Hierarchy.forwardLines, List.filterMap_append, List.filterMap_map]
    simp [blank]
  have base : h.baseLines.filterMap form.name? =
      (form.name? h.openingLine).toList ++ h.nodes.filterMap fun n => form.name? n.visitLine := by
    have opening : h.baseOpening.filterMap form.name? = (form.name? h.openingLine).toList := by
      change [h.openingLine, visitorOpening].filterMap form.name? = _
      cases own : form.name? h.openingLine <;> simp [own, visitor]
    rw [Hierarchy.baseLines, List.filterMap_append, List.filterMap_append, List.filterMap_map,
      opening, List.filterMap_eq_nil_iff.2 closing, List.append_nil]
    rfl
  have nodes : (h.nodes.flatMap (Node.headerLines h.base)).filterMap form.name? =
      h.nodes.filterMap fun n => form.name? (n.openingLine h.base) := by
    rw [List.filterMap_flatMap, List.filterMap_eq_flatMap_toList]
    refine List.flatMap_congr fun n member => ?_
    change (n.openingLine h.base :: n.innerLines).filterMap form.name? = _
    rw [List.filterMap_cons, List.filterMap_eq_nil_iff.2 (silent.nodes n member)]
    cases form.name? (n.openingLine h.base) <;> rfl
  rw [Hierarchy.headerLines, List.filterMap_append, List.filterMap_append, forward, base, nodes,
    List.append_assoc, List.append_assoc]

theorem silentInside_of_struct (opening : form.opening = "struct ") : form.SilentInside h := by
  have skip {l : Text} (other : ¬ (("struct " : Text) <+: l)) : form.name? l = none :=
    name?_eq_none_of_opening (by rwa [opening])
  constructor
  · have base : ∀ l ∈ [] :: visitorOpening :: h.baseClosing, ¬ (("struct " : Text) <+: l) := by
      simp [visitorOpening, Hierarchy.baseClosing]
    exact fun l member => skip (base l member)
  · intro n _
    have member : ∀ l ∈ n.memberLines, ¬ (("struct " : Text) <+: l) :=
      Node.forall_mem_memberLines (by simp) fun f _ => by simp [Field.memberLine]
    have other : ∀ l ∈ n.constructorLine :: n.closingLines, ¬ (("struct " : Text) <+: l) := by
      simp [Node.constructorLine, Node.closingLines]
    exact fun l inside => skip (List.forall_mem_append.2 ⟨member, other⟩ l inside)

theorem name?_visit_of_opening {l : Text}
    (other : ¬ (("        virtual void visit(const " : Text) <+: l)) : visit.name? l = none :=
  name?_eq_none_of_opening other

/-- A name stands behind the last blank of a member line, and none in a visitor's method. -/
theorem name?_visit_memberLine {f : Field} (canonical : f.Canonical) :
    visit.name? f.memberLine = none := by
  rw [Option.eq_none_iff_forall_ne_some]
  intro name told
  obtain ⟨-, same⟩ := fits_ofEnds_iff.1 (name?_eq_some_iff.1 told)
  have blank : isBlank ' ' = true := by decide
  have member :
      f.memberLine = (("    " ++ f.type : Text) ++ ' ' :: (f.marks ++ f.name)) ++ [';'] := by
    simp [Field.memberLine, Field.declaration]
  have method : ("        virtual void visit(const " ++ name ++ " &) = 0;" : Text) =
      (("        virtual void visit(const " ++ name ++ " &) =" : Text) ++ ' ' :: ['0']) ++
        [';'] := by
    simp
  have zero : ∀ d ∈ ['0'], isBlank d = false := List.forall_mem_singleton.2 (by decide)
  rw [method, member, List.append_left_inj] at same
  have cut := congrArg splitLast? same
  rw [splitLast?_append _ _ blank canonical.unblank, splitLast?_append _ _ blank zero,
    Option.some.injEq, Prod.mk.injEq, List.append_eq_singleton_iff] at cut
  rcases cut.2 with ⟨-, named⟩ | ⟨-, unnamed⟩
  · exact absurd canonical.name (by rw [named]; decide)
  · exact Cpp.ne_nil_of_isIdentifier canonical.name unnamed

/-- The form of the visitor's methods tells nothing elsewhere. -/
theorem silentInside_visit (named : h.Named) (canonical : h.Canonical) : visit.SilentInside h := by
  constructor
  · have base : ∀ l ∈ [] :: visitorOpening :: h.baseClosing,
        ¬ (("        virtual void visit(const " : Text) <+: l) := by
      simp [visitorOpening, Hierarchy.baseClosing]
    exact fun l member => name?_visit_of_opening (base l member)
  · intro n inside
    have blank : visit.name? [] = none := name?_visit_of_opening (by simp)
    have member : ∀ l ∈ n.memberLines, visit.name? l = none :=
      Node.forall_mem_memberLines blank fun f field =>
        name?_visit_memberLine (canonical n inside f field)
    have other : ∀ l ∈ n.constructorLine :: n.closingLines,
        ¬ (("        virtual void visit(const " : Text) <+: l) := by
      obtain ⟨c, rest, name⟩ := List.exists_cons_of_ne_nil
        (Cpp.ne_nil_of_isIdentifier (named.nodes n inside))
      have unblank := Cpp.isBlank_of_mem (named.nodes n inside) (show c ∈ n.name by simp [name])
      have first : ' ' ≠ c := by
        rintro rfl
        exact absurd unblank (by decide)
      simp [Node.constructorLine, Node.closingLines, name, first]
    exact List.forall_mem_append.2 ⟨member, fun l behind => name?_visit_of_opening (other l behind)⟩

/-- What a form of lines that start with `struct` tells depends on what it lets stand behind a
name. -/
theorem filterMap_headerLines_struct (opening : form.opening = "struct ") (named : h.Named) :
    h.headerLines.filterMap form.name? =
      h.nodes.filterMap (fun n => if form.closes n.name ";" = true then some n.name else none) ++
        ((if form.closes h.base " \x7b" = true then some h.base else none).toList ++
          h.nodes.filterMap fun n =>
            if form.closes n.name (" : " ++ h.base ++ " \x7b") = true then some n.name
            else none) := by
  have told {name tail : Text} (named : Cpp.isIdentifier name = true)
      (apart : ∀ c ∈ tail.head?, Cpp.isNameChar c = false) :
      form.name? ("struct " ++ name ++ tail) =
        if form.closes name tail = true then some name else none := by
    rw [List.append_assoc, ← opening, name?_append named apart]
  have space : ∀ c ∈ [' '].head?, Cpp.isNameChar c = false := by simp; decide
  have forward : h.nodes.filterMap (fun n => form.name? n.forwardLine) =
      h.nodes.filterMap fun n => if form.closes n.name ";" = true then some n.name else none :=
    List.filterMap_congr fun n member => told (named.nodes n member) (by simp; decide)
  have method : h.nodes.filterMap (fun n => form.name? n.visitLine) = [] := by
    refine List.filterMap_eq_nil_iff.2 fun n _ => name?_eq_none_of_opening ?_
    rw [opening]
    simp [Node.visitLine]
  have node : h.nodes.filterMap (fun n => form.name? (n.openingLine h.base)) =
      h.nodes.filterMap fun n =>
        if form.closes n.name (" : " ++ h.base ++ " \x7b") = true then some n.name else none := by
    refine List.filterMap_congr fun n member => ?_
    rw [← told (named.nodes n member) (by simpa using space)]
    simp [Node.openingLine]
  have base : form.name? h.openingLine =
      if form.closes h.base " \x7b" = true then some h.base else none :=
    told named.base (by simpa using space)
  rw [filterMap_headerLines (silentInside_of_struct opening), forward, base, method, node,
    List.nil_append]

theorem filterMap_forward (named : h.Named) :
    h.headerLines.filterMap forward.name? = h.nodes.map Node.name := by
  rw [filterMap_headerLines_struct rfl named]
  simp [forward, ofEnds]

theorem filterMap_definition (named : h.Named) :
    h.headerLines.filterMap definition.name? = h.base :: h.nodes.map Node.name := by
  have closed : ['\x7b'] <:+ ' ' :: ':' :: ' ' :: (h.base ++ [' ', '\x7b']) :=
    ⟨' ' :: ':' :: ' ' :: (h.base ++ [' ']), by simp⟩
  rw [filterMap_headerLines_struct rfl named]
  simp [definition, closed]

theorem filterMap_derived (named : h.Named) :
    h.headerLines.filterMap (derived h.base).name? = h.nodes.map Node.name := by
  rw [filterMap_headerLines_struct rfl named]
  simp [derived, ofEnds]

theorem name?_visit_visitLine {n : Node} (named : Cpp.isIdentifier n.name = true) :
    visit.name? n.visitLine = some n.name :=
  name?_eq_some_iff.2 (fits_ofEnds_iff.2 ⟨named, rfl⟩)

theorem filterMap_visit (named : h.Named) (canonical : h.Canonical) :
    h.headerLines.filterMap visit.name? = h.nodes.map Node.name := by
  have forward : h.nodes.filterMap (fun n => visit.name? n.forwardLine) = [] :=
    List.filterMap_eq_nil_iff.2 fun n _ => name?_visit_of_opening (by simp [Node.forwardLine])
  have node : h.nodes.filterMap (fun n => visit.name? (n.openingLine h.base)) = [] :=
    List.filterMap_eq_nil_iff.2 fun n _ => name?_visit_of_opening (by simp [Node.openingLine])
  have base : visit.name? h.openingLine = none :=
    name?_visit_of_opening (by simp [Hierarchy.openingLine])
  have method : h.nodes.filterMap (fun n => visit.name? n.visitLine) = h.nodes.map Node.name := by
    rw [← List.filterMap_eq_map']
    exact List.filterMap_congr fun n member => name?_visit_visitLine (named.nodes n member)
  rw [filterMap_headerLines (silentInside_visit named canonical), forward, base, method, node]
  simp

end LineForm

end NodeClasses
