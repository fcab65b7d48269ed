import NodeClasses.Hierarchy.Header

/-!
# Source lines

The definitions of a hierarchy, line by line: for every node its constructor, which initializes
each member from the parameter of its name, and its `accept`, which calls the visitor's method for
the node's own type.
-/

namespace NodeClasses
set_option autoImplicit false

namespace Node

/-- The initializers of the members, in order. -/
def initializers (n : Node) : Text :=
  List.intercalate (", " : Text) (n.fields.map Field.initializer)

/-- Defines the constructor. -/
def constructorLines (n : Node) : List Text :=
  if n.fields = [] then [n.name ++ "::" ++ n.name ++ "() \x7b\x7d", ""]
  else
    [n.name ++ "::" ++ n.name ++ "(" ++ n.parameters ++ ")",
      "    : " ++ n.initializers ++ " \x7b\x7d",
      ""]

/-- Defines `accept`. -/
def acceptLine (n : Node) : Text :=
  "void " ++ n.name ++ "::" ++ acceptName ++ "(" ++ visitorName ++
    " &v) const \x7b v.visit(*this); \x7d"

/-- The definitions of the methods of the type. -/
def sourceLines (n : Node) : List Text := n.constructorLines ++ [n.acceptLine, ""]

end Node

/-- The definitions of the hierarchy. -/
def Hierarchy.sourceLines (h : Hierarchy) : List Text := h.nodes.flatMap Node.sourceLines

end NodeClasses
