import NodeClasses.Hierarchy.Source
import NodeClasses.Proofs.CodeUnit.Recovery
import NodeClasses.Proofs.Cpp.LineForm

/-!
# Names told by the lines of a source file

A line of a source file starts the definition of a constructor, or defines `accept`, or does
neither. The parameters of a constructor stand behind its name on the same line, so a type that
imitates a definition tells nothing. `filterMap_definition` says that the definitions follow the
order of the nodes, with the constructor of each node in front of its `accept`.
-/

namespace NodeClasses
set_option autoImplicit false

open Text

namespace LineForm

/-- Starts the definition of a type's constructor. -/
def constructor : LineForm where
  opening := []
  closes name tail := List.isPrefixOf ("::" ++ name ++ "(" : Text) tail
  apart _ tail closed := by
    obtain ⟨rest, rfl⟩ := List.isPrefixOf_iff_prefix.1 closed
    simp
    decide

/-- Defines `accept` for a type. -/
def accept : LineForm :=
  ofEnds "void " "::accept(Visitor &v) const \x7b v.visit(*this); \x7d" (by simp; decide)

end LineForm

/-- A definition in a source file, with the type that it belongs to. -/
inductive Definition where
  | constructor (type : Text)
  | accept (type : Text)
  deriving DecidableEq, Repr

/-- The definition that starts on a line. -/
def Definition.ofLine? (line : Text) : Option Definition :=
  ((LineForm.constructor.name? line).map constructor).or ((LineForm.accept.name? line).map accept)

namespace Node

/-- The first line of a constructor's definition. -/
def constructorOpening (n : Node) (parameters : Text) : Text :=
  n.name ++ ("::" ++ n.name ++ "(" ++ parameters)

/-- A constructor is defined by its first line and by lines that are indented or blank. -/
theorem constructorLines_eq (n : Node) :
    ∃ parameters more, n.constructorLines = n.constructorOpening parameters :: more ∧
      ∀ l ∈ more, l = [] ∨ ∃ rest, l = ' ' :: rest := by
  unfold constructorLines
  split
  · exact ⟨") \x7b\x7d", [[]], by simp [constructorOpening], by simp⟩
  · exact ⟨n.parameters ++ ")", ["    : " ++ n.initializers ++ " \x7b\x7d", []],
      by simp [constructorOpening], by simp⟩

end Node

namespace LineForm

variable {n : Node}

theorem name?_constructor_constructorOpening (named : Cpp.isIdentifier n.name = true)
    (parameters : Text) : constructor.name? (n.constructorOpening parameters) = some n.name :=
  name?_eq_some_iff.2 ⟨named, _, List.isPrefixOf_iff_prefix.2 ⟨parameters, rfl⟩, rfl⟩

theorem name?_accept_acceptLine (named : Cpp.isIdentifier n.name = true) :
    accept.name? n.acceptLine = some n.name := by
  refine name?_eq_some_iff.2 (fits_ofEnds_iff.2 ⟨named, ?_⟩)
  simp [Node.acceptLine, acceptName, visitorName]

/-- A colon stands behind the name of a constructor, and a blank behind `void`. -/
theorem name?_accept_constructorOpening (named : Cpp.isIdentifier n.name = true)
    (parameters : Text) : accept.name? (n.constructorOpening parameters) = none := by
  refine name?_eq_none_of_opening ?_
  rintro ⟨rest, same⟩
  have word : Cpp.isIdentifier ['v', 'o', 'i', 'd'] = true := by decide
  have line : ['v', 'o', 'i', 'd'] ++ ' ' :: rest = n.constructorOpening parameters := by
    simpa [accept, ofEnds] using same
  have void := Cpp.takeWhile_name word (show ∀ c ∈ (' ' :: rest).head?, _ by simp; decide)
  have own : (n.constructorOpening parameters).dropWhile Cpp.isNameChar =
      "::" ++ n.name ++ "(" ++ parameters := (Cpp.takeWhile_name named (by simp; decide)).2
  rw [← line, void.2] at own
  simp at own

theorem name?_constructor_acceptLine : constructor.name? n.acceptLine = none := by
  have word : Cpp.isIdentifier ['v', 'o', 'i', 'd'] = true := by decide
  have line : n.acceptLine = constructor.opening ++ (['v', 'o', 'i', 'd'] ++ ' ' :: (n.name ++
      "::" ++ acceptName ++ "(" ++ visitorName ++ " &v) const \x7b v.visit(*this); \x7d")) := by
    simp [Node.acceptLine, constructor]
  rw [line, name?_append word (by simp; decide), if_neg (by simp [constructor])]

/-- A line that starts with no name starts no constructor. -/
theorem name?_constructor_of_head {l : Text} (unnamed : ∀ c ∈ l.head?, Cpp.isNameChar c = false) :
    constructor.name? l = none := by
  rw [Option.eq_none_iff_forall_ne_some]
  intro name told
  obtain ⟨named, tail, -, rfl⟩ := name?_eq_some_iff.1 told
  obtain ⟨c, rest, rfl⟩ := List.exists_cons_of_ne_nil (Cpp.ne_nil_of_isIdentifier named)
  have first := Cpp.isNameChar_of_mem named List.mem_cons_self
  rw [unnamed c rfl] at first
  cases first

/-- Lines that are indented or blank define nothing. -/
theorem name?_of_indented {l : Text} (indented : l = [] ∨ ∃ rest, l = ' ' :: rest) :
    constructor.name? l = none ∧ accept.name? l = none := by
  constructor
  · refine name?_constructor_of_head ?_
    rcases indented with rfl | ⟨more, rfl⟩ <;> simp
    decide
  · refine name?_eq_none_of_opening ?_
    rcases indented with rfl | ⟨more, rfl⟩ <;> simp [accept, ofEnds]

end LineForm

/-- The definitions of a type: its constructor, then its `accept`. -/
def Definition.ofType (name : Text) : List Definition := [.constructor name, .accept name]

/-- Only the first line of its constructor and its `accept` tell something of a node. -/
theorem Node.filterMap_sourceLines {α : Type} {read : Text → Option α}
    (silent : ∀ l, (l = [] ∨ ∃ rest, l = ' ' :: rest) → read l = none) (n : Node) :
    ∃ parameters, n.sourceLines.filterMap read =
      (read (n.constructorOpening parameters)).toList ++ (read n.acceptLine).toList := by
  obtain ⟨parameters, more, lines, indented⟩ := n.constructorLines_eq
  have rest : more.filterMap read = [] :=
    List.filterMap_eq_nil_iff.2 fun l member => silent l (indented l member)
  have blank : read [] = none := silent [] (.inl rfl)
  refine ⟨parameters, ?_⟩
  rw [sourceLines, lines, List.filterMap_append, List.filterMap_cons, rest]
  cases read (n.constructorOpening parameters) <;> cases own : read n.acceptLine <;>
    simp [own, blank]

namespace Hierarchy

variable {h : Hierarchy}

theorem filterMap_constructor (named : ∀ n ∈ h.nodes, Cpp.isIdentifier n.name = true) :
    h.sourceLines.filterMap LineForm.constructor.name? = h.nodes.map Node.name := by
  rw [sourceLines, List.filterMap_flatMap, List.map_eq_flatMap]
  refine List.flatMap_congr fun n member => ?_
  obtain ⟨parameters, told⟩ :=
    n.filterMap_sourceLines fun _ indented => (LineForm.name?_of_indented indented).1
  rw [told, LineForm.name?_constructor_constructorOpening (named n member),
    LineForm.name?_constructor_acceptLine]
  rfl

theorem filterMap_accept (named : ∀ n ∈ h.nodes, Cpp.isIdentifier n.name = true) :
    h.sourceLines.filterMap LineForm.accept.name? = h.nodes.map Node.name := by
  rw [sourceLines, List.filterMap_flatMap, List.map_eq_flatMap]
  refine List.flatMap_congr fun n member => ?_
  obtain ⟨parameters, told⟩ :=
    n.filterMap_sourceLines fun _ indented => (LineForm.name?_of_indented indented).2
  rw [told, LineForm.name?_accept_constructorOpening (named n member),
    LineForm.name?_accept_acceptLine (named n member)]
  rfl

/-- The definitions follow the order of the nodes. -/
theorem filterMap_definition (named : ∀ n ∈ h.nodes, Cpp.isIdentifier n.name = true) :
    h.sourceLines.filterMap Definition.ofLine? =
      (h.nodes.map Node.name).flatMap Definition.ofType := by
  have silent {l : Text} (indented : l = [] ∨ ∃ rest, l = ' ' :: rest) :
      Definition.ofLine? l = none := by
    simp [Definition.ofLine?, LineForm.name?_of_indented indented]
  rw [sourceLines, List.filterMap_flatMap, List.flatMap_map]
  refine List.flatMap_congr fun n member => ?_
  obtain ⟨parameters, told⟩ := n.filterMap_sourceLines fun _ indented => silent indented
  simp only [told, Definition.ofLine?, LineForm.name?_constructor_acceptLine,
    LineForm.name?_constructor_constructorOpening (named n member),
    LineForm.name?_accept_acceptLine (named n member)]
  rfl

end Hierarchy

/-! ### Lines that are not broken -/

theorem Node.unbroken_sourceLines {n : Node} (h : n.Unbroken) : ∀ l ∈ n.sourceLines, '\n' ∉ l := by
  have parameters : '\n' ∉ n.parameters :=
    notMem_intercalate (by simp) (by simpa using h.fields)
  have initializers : '\n' ∉ n.initializers := by
    refine notMem_intercalate (by simp) (List.forall_mem_map.2 fun f member => ?_)
    have name : '\n' ∉ f.name := fun inside =>
      h.fields f member (by simp [Field.declaration, inside])
    unfold Field.initializer
    split <;> simp [name]
  have constructor : ∀ l ∈ n.constructorLines, '\n' ∉ l := by
    unfold constructorLines
    split <;> simp [h.name, parameters, initializers]
  have accept : '\n' ∉ n.acceptLine := by
    simp [acceptLine, h.name, acceptName, visitorName]
  rw [sourceLines, List.forall_mem_append]
  exact ⟨constructor, by simpa using accept⟩

theorem Hierarchy.unbroken_sourceLines {h : Hierarchy} (unbroken : h.Unbroken) :
    ∀ l ∈ h.sourceLines, '\n' ∉ l := by
  intro l member
  obtain ⟨n, inside, member⟩ := List.mem_flatMap.1 member
  exact Node.unbroken_sourceLines (unbroken.nodes n inside) l member

end NodeClasses
