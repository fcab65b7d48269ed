import NodeClasses.Hierarchy.Basic

/-!
# Header lines

The declarations of a hierarchy, line by line: every node is announced, then comes the base type
with the visitor interface that has one method for each node, then every node's own type. Each
block follows the order of the nodes.
-/

namespace NodeClasses
set_option autoImplicit false

/-- Declares a member. -/
def Field.memberLine (f : Field) : Text := "    " ++ f.declaration ++ ";"

namespace Node

/-- The parameter list of the constructor: the declarations of the fields. -/
def parameters (n : Node) : Text := List.intercalate (", " : Text) (n.fields.map Field.declaration)

/-- Announces the type. -/
def forwardLine (n : Node) : Text := "struct " ++ n.name ++ ";"

/-- Declares the visitor's method for the type. -/
def visitLine (n : Node) : Text := "        virtual void visit(const " ++ n.name ++ " &) = 0;"

/-- Opens the definition of the type. -/
def openingLine (base : Text) (n : Node) : Text := "struct " ++ n.name ++ " : " ++ base ++ " \x7b"

/-- Declares the members, with a blank line behind them if there are any. -/
def memberLines (n : Node) : List Text :=
  if n.fields = [] then []
  else n.fields.map Field.memberLine ++ [[]]

/-- Declares the constructor. -/
def constructorLine (n : Node) : Text := "    " ++ n.name ++ "(" ++ n.parameters ++ ");"

/-- Declares the methods and closes the definition of the type. -/
def closingLines (n : Node) : List Text :=
  ["    void " ++ acceptName ++ "(" ++ visitorName ++ " &v) const override;",
    "    virtual ~" ++ n.name ++ "() \x7b\x7d",
    "\x7d;",
    ""]

/-- Defines the type. -/
def headerLines (base : Text) (n : Node) : List Text :=
  n.openingLine base :: n.memberLines ++ n.constructorLine :: n.closingLines

/-- A node without fields has no member lines. -/
@[simp] theorem memberLines_nil (name : Text) : memberLines ⟨name, []⟩ = [] := rfl

/-- What holds of a blank line and of the lines of the fields holds of all member lines. -/
theorem forall_mem_memberLines {n : Node} {p : Text → Prop} (blank : p [])
    (field : ∀ f ∈ n.fields, p f.memberLine) : ∀ l ∈ n.memberLines, p l := by
  unfold memberLines
  split
  · simp
  · rw [List.forall_mem_append, List.forall_mem_map]
    exact ⟨field, by simpa using blank⟩

end Node

namespace Hierarchy

/-- Announces the node types. -/
def forwardLines (h : Hierarchy) : List Text := h.nodes.map Node.forwardLine ++ [[]]

/-- Opens the definitions of the base type and of its visitor. -/
def baseOpening (h : Hierarchy) : List Text :=
  ["struct " ++ h.base ++ " \x7b",
    "    struct " ++ visitorName ++ " \x7b"]

/-- Closes the definitions of the visitor and of the base type. -/
def baseClosing (h : Hierarchy) : List Text :=
  ["        virtual ~" ++ visitorName ++ "() \x7b\x7d",
    "    \x7d;",
    "",
    "    virtual void " ++ acceptName ++ "(" ++ visitorName ++ " &v) const = 0;",
    "    virtual ~" ++ h.base ++ "() \x7b\x7d",
    "\x7d;",
    ""]

/-- Defines the base type and its visitor. -/
def baseLines (h : Hierarchy) : List Text :=
  h.baseOpening ++ h.nodes.map Node.visitLine ++ h.baseClosing

/-- The declarations of the hierarchy. -/
def headerLines (h : Hierarchy) : List Text :=
  h.forwardLines ++ h.baseLines ++ h.nodes.flatMap (Node.headerLines h.base)

end Hierarchy

end NodeClasses
