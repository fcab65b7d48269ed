import NodeClasses.Hierarchy.Header

/-!
# What a header declares

The header lines of a hierarchy behind the forward declarations are those of a forest of
declarations: the base struct with its visitor struct inside, and a struct for each node. The forest
tells which members each struct declares, and `headerLines_eq` that nothing else is written.
-/

namespace NodeClasses
set_option autoImplicit false

open Text

/-- A declaration inside a header. -/
inductive Declaration where
  /-- A struct, with what is said between its name and its body. -/
  | struct (name heritage : Text) (body : List Declaration)
  /-- A member, with what its line says before and behind its name. -/
  | member (before name after : Text)
  /-- A constructor or a destructor, which has no name of its own. -/
  | special (line : Text)
  /-- A blank line. -/
  | blank

/-- A struct and the names of the members that it declares itself. -/
structure Struct where
  name : Text
  members : List Text

namespace Declaration

/-- The step by which the body of a struct is indented. -/
def indentation : Text := "    "

mutual

/-- The lines of a declaration. -/
def lines (indent : Text) : Declaration → List Text
  | .struct name heritage body =>
    (indent ++ "struct " ++ name ++ heritage ++ " \x7b") ::
      linesAll (indent ++ indentation) body ++ [indent ++ "\x7d;", []]
  | .member before name after => [indent ++ before ++ name ++ after]
  | .special line => [indent ++ line]
  | .blank => [[]]

/-- The lines of several declarations. -/
def linesAll (indent : Text) : List Declaration → List Text
  | [] => []
  | d :: ds => d.lines indent ++ linesAll indent ds

end

/-- The name that a declaration introduces in the struct around it. -/
def name? : Declaration → Option Text
  | .struct name _ _ => some name
  | .member _ name _ => some name
  | .special _ => none
  | .blank => none

mutual

/-- The structs of a declaration, the outer ones first. -/
def structs : Declaration → List Struct
  | .struct name _ body => ⟨name, body.filterMap name?⟩ :: structsAll body
  | .member _ _ _ => []
  | .special _ => []
  | .blank => []

/-- The structs of several declarations. -/
def structsAll : List Declaration → List Struct
  | [] => []
  | d :: ds => d.structs ++ structsAll ds

end

theorem linesAll_eq_flatMap (indent : Text) (ds : List Declaration) :
    linesAll indent ds = ds.flatMap (lines indent) := by
  induction ds with
  | nil => rfl
  | cons d ds ih => rw [linesAll, ih, List.flatMap_cons]

theorem structsAll_eq_flatMap (ds : List Declaration) : structsAll ds = ds.flatMap structs := by
  induction ds with
  | nil => rfl
  | cons d ds ih => rw [structsAll, ih, List.flatMap_cons]

end Declaration

/-- The name of the visitor's methods. -/
def visitName : Text := "visit"

/-- Declares a field as a member. -/
def Field.member (f : Field) : Declaration := .member (f.type ++ " " ++ f.marks) f.name ";"

namespace Node

/-- Declares the visitor's method for the node. -/
def visitMethod (n : Node) : Declaration :=
  .member "virtual void " visitName ("(const " ++ n.name ++ " &) = 0;")

/-- Declares the fields, with a blank line behind them if there are any. -/
def fieldMembers (n : Node) : List Declaration :=
  if n.fields = [] then [] else n.fields.map Field.member ++ [.blank]

/-- Declares the struct of the node. -/
def struct (base : Text) (n : Node) : Declaration :=
  .struct n.name (" : " ++ base) <|
    n.fieldMembers ++
      [.special (n.name ++ "(" ++ n.parameters ++ ");"),
        .member "void " acceptName ("(" ++ visitorName ++ " &v) const override;"),
        .special ("virtual ~" ++ n.name ++ "() \x7b\x7d")]

end Node

namespace Hierarchy

/-- Declares the visitor. -/
def visitorStruct (h : Hierarchy) : Declaration :=
  .struct visitorName [] <|
    h.nodes.map Node.visitMethod ++ [.special ("virtual ~" ++ visitorName ++ "() \x7b\x7d")]

/-- Declares the base struct. -/
def baseStruct (h : Hierarchy) : Declaration :=
  .struct h.base []
    [h.visitorStruct,
      .member "virtual void " acceptName ("(" ++ visitorName ++ " &v) const = 0;"),
      .special ("virtual ~" ++ h.base ++ "() \x7b\x7d")]

/-- The declarations of the hierarchy. -/
def declarations (h : Hierarchy) : List Declaration :=
  h.baseStruct :: h.nodes.map (Node.struct h.base)

/-- The structs that the header of the hierarchy declares. -/
def structs (h : Hierarchy) : List Struct := h.declarations.flatMap Declaration.structs

end Hierarchy

namespace Declaration

theorem lines_visitMethod (n : Node) :
    n.visitMethod.lines (indentation ++ indentation) = [n.visitLine] := by
  simp [Node.visitMethod, lines, Node.visitLine, indentation, visitName]

theorem lines_fieldMember (f : Field) : f.member.lines indentation = [f.memberLine] := by
  simp [Field.member, lines, Field.memberLine, Field.declaration, indentation]

theorem linesAll_fieldMembers (n : Node) :
    linesAll indentation n.fieldMembers = n.memberLines := by
  unfold Node.fieldMembers Node.memberLines
  split
  · rfl
  · rw [linesAll_eq_flatMap, List.flatMap_append, List.flatMap_map]
    simp [lines_fieldMember, lines, ← List.map_eq_flatMap]

theorem lines_struct (base : Text) (n : Node) :
    (n.struct base).lines [] = n.headerLines base := by
  have body : linesAll indentation (n.fieldMembers ++
      [.special (n.name ++ "(" ++ n.parameters ++ ");"),
        .member "void " acceptName ("(" ++ visitorName ++ " &v) const override;"),
        .special ("virtual ~" ++ n.name ++ "() \x7b\x7d")]) =
      n.memberLines ++ n.constructorLine :: n.closingLines.take 2 := by
    rw [← linesAll_fieldMembers, linesAll_eq_flatMap, linesAll_eq_flatMap, List.flatMap_append]
    simp [lines, Node.constructorLine, Node.closingLines, indentation]
  rw [Node.struct, lines, List.nil_append, List.nil_append, body]
  simp [Node.headerLines, Node.openingLine, Node.closingLines]

theorem lines_baseStruct (h : Hierarchy) : h.baseStruct.lines [] = h.baseLines := by
  have methods : linesAll (indentation ++ indentation) (h.nodes.map Node.visitMethod ++
      [.special ("virtual ~" ++ visitorName ++ "() \x7b\x7d")]) =
      h.nodes.map Node.visitLine ++ h.baseClosing.take 1 := by
    rw [linesAll_eq_flatMap, List.flatMap_append, List.flatMap_map]
    simp only [lines_visitMethod, ← List.map_eq_flatMap]
    simp [lines, Hierarchy.baseClosing, indentation]
  have visitor : h.visitorStruct.lines indentation =
      h.baseOpening.drop 1 ++ h.nodes.map Node.visitLine ++ h.baseClosing.take 3 := by
    rw [Hierarchy.visitorStruct, lines, methods]
    simp [Hierarchy.baseOpening, Hierarchy.baseClosing, indentation]
  rw [Hierarchy.baseStruct, lines, linesAll, List.nil_append, List.nil_append, visitor]
  simp [linesAll, lines, Hierarchy.baseLines, Hierarchy.baseOpening, Hierarchy.baseClosing,
    indentation]

end Declaration

/-- Behind the forward declarations a header has the lines of the declarations, and no others. -/
theorem Hierarchy.headerLines_eq (h : Hierarchy) :
    h.headerLines = h.forwardLines ++ Declaration.linesAll [] h.declarations := by
  rw [declarations, Declaration.linesAll, Declaration.lines_baseStruct,
    Declaration.linesAll_eq_flatMap, List.flatMap_map, headerLines, List.append_assoc]
  simp only [Declaration.lines_struct]

end NodeClasses
