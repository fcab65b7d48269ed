import NodeClasses.Proofs.CodeUnit.Recovery

/-!
# Members, parameters and initializers

The code of a variant names the fields in four places: as members and as parameters in the header,
and as parameters and in the initializers in the source file. `code_partsAgree` says that all four
agree with the entries of the variant, and so the constructor gives every member the value of the
parameter of its name: none of its initializers reads a parameter that was moved before.
-/

namespace NodeClasses
set_option autoImplicit false

open Text

/-- The kinds of members that own what they hold. -/
inductive Field.Kind.IsOwned : Field.Kind → Prop where
  | tokens : IsOwned .tokens
  | child (node : Text) : IsOwned (.child node)
  | children (node : Text) : IsOwned (.children node)
  | anyValue : IsOwned .anyValue

theorem Field.Kind.isMoved_iff {k : Field.Kind} : k.isMoved = true ↔ k.IsOwned := by
  constructor
  · intro moved
    cases k with
    | token => cases moved
    | tokens => exact .tokens
    | child node => exact .child node
    | children node => exact .children node
    | anyValue => exact .anyValue
    | plain => cases moved
  · rintro (_ | _) <;> rfl

/-- Initializes a member from a parameter. -/
structure Initializer where
  member : Text
  parameter : Text
  /-- Is the parameter moved, or is it copied? -/
  moves : Bool
  deriving DecidableEq, Repr

namespace Initializer

/-- The initializer as it stands in the code. -/
def text (i : Initializer) : Text :=
  if i.moves then i.member ++ "(std::move(" ++ i.parameter ++ "))"
  else i.member ++ "(" ++ i.parameter ++ ")"

/-- The initializer of a field. -/
def ofField (d : Field) : Initializer := ⟨d.name, d.name, d.kind.isMoved⟩

variable {α : Type}

/-- What the parameters hold after the initializer has run. A moved parameter holds nothing. -/
def leave (i : Initializer) (held : Text → Option α) : Text → Option α :=
  if i.moves then Function.update held i.parameter none else held

theorem leave_of_ne {i : Initializer} {name : Text} (other : name ≠ i.parameter)
    (held : Text → Option α) : i.leave held name = held name := by
  unfold leave
  split
  · exact Function.update_of_ne other none held
  · rfl

/-- What the members hold after their initializers have run, one member after the other. Reading a
parameter that holds nothing has no outcome. -/
def runAll (initializers : List Initializer) :
    List Text → (Text → Option α) → Option (List (Text × α))
  | [], _ => some []
  | member :: members, held => do
    let i ← initializers.find? fun i => i.member == member
    let value ← held i.parameter
    let rest ← runAll initializers members (i.leave held)
    return (member, value) :: rest

/-- Where every member has an initializer that reads the parameter of its name, and no member comes
twice, each member gets the value of its own parameter. -/
theorem runAll_of_own {initializers : List Initializer} {members : List Text}
    {held : Text → Option α} {value : Text → α}
    (own : ∀ i ∈ initializers, i.parameter = i.member)
    (initialized : ∀ m ∈ members, m ∈ initializers.map member) (nodup : members.Nodup)
    (full : ∀ m ∈ members, held m = some (value m)) :
    runAll initializers members held = some (members.map fun m => (m, value m)) := by
  induction members generalizing held with
  | nil => rfl
  | cons m members ih =>
    rw [List.forall_mem_cons] at initialized full
    obtain ⟨absent, nodup⟩ := List.nodup_cons.1 nodup
    cases found : initializers.find? fun i => i.member == m with
    | none =>
      obtain ⟨i, inside, same⟩ := List.mem_map.1 initialized.1
      exact absurd same (by simpa using List.find?_eq_none.1 found i inside)
    | some i =>
      have member : i.member = m := by simpa using List.find?_some found
      have parameter : i.parameter = m := (own i (List.mem_of_find?_eq_some found)).trans member
      -- The parameters of the members to come are still there, as this one has another name.
      have kept : ∀ other ∈ members, i.leave held other = some (value other) := by
        intro other inside
        have ne : other ≠ i.parameter := by
          rintro rfl
          exact absent (parameter ▸ inside)
        rw [leave_of_ne ne, full.2 other inside]
      simp [runAll, found, parameter, full.1, ih initialized.2 nodup kept]

end Initializer

/-- The places in the code of a type that depend on its fields. -/
structure TypeParts where
  name : Text
  /-- The declarations of the members, without the semicolons. -/
  members : List Text
  /-- The parameters of the constructor in the header. -/
  declared : Text
  /-- The parameters of the constructor in the source file. -/
  defined : Text
  /-- The initializers of the constructor. -/
  initializers : List Initializer

namespace TypeParts

/-- The members, each with its semicolon, and a blank line behind them if there are any. -/
def membersText (p : TypeParts) : Text :=
  if p.members = [] then "" else (p.members.flatMap fun m => ("    " ++ m ++ ";\n" : Text)) ++ "\n"

/-- The type's part of the header. -/
def structText (base : Text) (p : TypeParts) : Text :=
  "struct " ++ p.name ++ " : " ++ base ++ " \x7b\n" ++ p.membersText ++
    "    " ++ p.name ++ "(" ++ p.declared ++ ");\n" ++
    "    void accept(Visitor &v) const override;\n" ++
    "    virtual ~" ++ p.name ++ "() \x7b\x7d\n" ++
    "\x7d;\n\n"

/-- The initializers, which are announced by a colon if there are any. -/
def initializersText (p : TypeParts) : Text :=
  if p.initializers = [] then ""
  else "\n    : " ++ List.intercalate (", " : Text) (p.initializers.map Initializer.text)

/-- The type's part of the source file. -/
def definitionText (p : TypeParts) : Text :=
  p.name ++ "::" ++ p.name ++ "(" ++ p.defined ++ ")" ++ p.initializersText ++ " \x7b\x7d\n\n" ++
    "void " ++ p.name ++ "::accept(Visitor &v) const \x7b v.visit(*this); \x7d\n\n"

/-- The parts of a type agree with each other and with the entries of the variant. -/
structure Agree (base : Text) (v : Variant) (p : TypeParts) : Prop where
  name : p.name = v.name
  /-- Each entry of the variant is a field. -/
  read : v.entries.map Field.parse? = v.fields.map some
  members : p.members = v.fields.map Field.declaration
  declared : p.declared = List.intercalate (", " : Text) (v.fields.map Field.declaration)
  defined : p.defined = p.declared
  /-- Each field has its initializer, which moves the parameter if the member owns what it holds. -/
  initializers : List.Forall₂ (fun d i => i.member = d.name ∧ i.parameter = d.name ∧
    (i.moves = true ↔ d.kind.IsOwned)) v.fields p.initializers
  names : ∀ name ∈ v.fieldNames, Cpp.isIdentifier name = true ∧ IsMemberName base v.name name
  distinct : v.fieldNames.Nodup
  /-- From parameters with any values, each member gets the value of its own one. -/
  constructs : ∀ {α : Type} (value : Text → α),
    Initializer.runAll p.initializers v.fieldNames
        (fun name => if name ∈ v.fieldNames then some (value name) else none) =
      some (v.fieldNames.map fun name => (name, value name))

/-- The parts of the type of a node. -/
def ofNode (n : Node) : TypeParts :=
  ⟨n.name, n.fields.map Field.declaration, n.parameters, n.parameters,
    n.fields.map Initializer.ofField⟩

theorem structText_ofNode (base : Text) (n : Node) :
    structText base (ofNode n) = ofLines (n.headerLines base) := by
  have members : membersText (ofNode n) = ofLines n.memberLines := by
    unfold membersText Node.memberLines
    simp only [ofNode, List.map_eq_nil_iff]
    split
    · simp
    · simp [ofLines, List.flatMap_map, Field.memberLine]
  rw [structText, members]
  simp [Node.headerLines, Node.openingLine, Node.constructorLine, Node.closingLines, ofNode,
    acceptName, visitorName]

theorem definitionText_ofNode (n : Node) :
    definitionText (ofNode n) = ofLines n.sourceLines := by
  have constructor : n.name ++ "::" ++ n.name ++ "(" ++ n.parameters ++ ")" ++
      initializersText (ofNode n) ++ " \x7b\x7d\n\n" = ofLines n.constructorLines := by
    unfold initializersText Node.constructorLines
    simp only [ofNode, List.map_eq_nil_iff, List.map_map]
    split
    · next none => simp [Node.parameters, none]
    · have own : Initializer.text ∘ Initializer.ofField = Field.initializer := rfl
      simp [Node.initializers, own]
  have accept : "void " ++ n.name ++ "::accept(Visitor &v) const \x7b v.visit(*this); \x7d\n\n" =
      ofLines [n.acceptLine, ""] := by
    simp [Node.acceptLine, acceptName, visitorName]
  have sides : definitionText (ofNode n) =
      (n.name ++ "::" ++ n.name ++ "(" ++ n.parameters ++ ")" ++
        initializersText (ofNode n) ++ " \x7b\x7d\n\n") ++
      ("void " ++ n.name ++ "::accept(Visitor &v) const \x7b v.visit(*this); \x7d\n\n") := by
    simp [definitionText, ofNode]
  rw [sides, constructor, accept, ← ofLines_append, Node.sourceLines]

theorem agree_ofNode {base : Text} {v : Variant} (wellFormed : v.WellFormed base)
    (read : v.entries.map Field.parse? = v.fields.map some) :
    (ofNode (Hierarchy.nodeOf v)).Agree base v := by
  constructor
  case name => rfl
  case read => exact read
  case members => rfl
  case declared => rfl
  case defined => rfl
  case initializers =>
    refine List.forall₂_map_right_iff.2 (List.forall₂_same.2 fun d _ => ⟨rfl, rfl, ?_⟩)
    exact Field.Kind.isMoved_iff
  case names =>
    intro name member
    refine ⟨?_, wellFormed.memberNames name member⟩
    obtain ⟨d, inside, rfl⟩ := List.mem_map.1 member
    obtain ⟨entry, -, parsed⟩ := List.mem_filterMap.1 inside
    exact (Field.admissible_of_parse? parsed).1
  case distinct => exact wellFormed.fieldNames_nodup
  case constructs =>
    intro α value
    have members : (v.fields.map Initializer.ofField).map Initializer.member = v.fieldNames := by
      rw [List.map_map]
      rfl
    refine Initializer.runAll_of_own ?_ ?_ wellFormed.fieldNames_nodup fun m inside => if_pos inside
    · exact List.forall_mem_map.2 fun d _ => rfl
    · intro m inside
      exact members ▸ inside

end TypeParts

namespace Family

theorem read_of_code {f : Family} {u : CodeUnit} (coded : f.code = .ok u) :
    ∀ v ∈ f.variants, v.entries.map Field.parse? = v.fields.map some := by
  cases read : Hierarchy.ofFamily f with
  | error e => simp [code, read, Except.map] at coded
  | ok h =>
    obtain ⟨-, same⟩ := Hierarchy.ofFamily_eq_ok_iff.1 read
    rw [Hierarchy.eq_of_ofFamily read, List.map_map, List.map_inj_left] at same
    exact fun v member => (Prod.mk.inj (same v member)).2

/-- **Members, parameters and initializers agree.** Behind the base, the header has the struct of
each variant, and the source file has its definitions. Their parts agree with each other and with
the entries of the variant. -/
theorem code_partsAgree {base : Text} {variants : List Variant} {f : Family} {u : CodeUnit}
    (built : build base variants = .ok f) (coded : f.code = .ok u) :
    ∃ parts : List TypeParts, List.Forall₂ (TypeParts.Agree base) variants parts ∧
      u.header = ofLines (f.outline.forwardLines ++ f.outline.baseLines) ++
        parts.flatMap (TypeParts.structText base) ∧
      u.source = parts.flatMap TypeParts.definitionText := by
  obtain ⟨rfl, rfl⟩ := build_eq_ok_iff.1 built
  have read := read_of_code coded
  obtain rfl := eq_of_code coded
  refine ⟨f.outline.nodes.map TypeParts.ofNode, ?_, ?_, ?_⟩
  case refine_1 =>
    rw [outline, List.forall₂_map_right_iff, List.forall₂_map_right_iff, List.forall₂_same]
    exact fun v member =>
      TypeParts.agree_ofNode (f.wellFormed.variantsWellFormed v member) (read v member)
  case refine_2 =>
    simp only [List.flatMap_map, TypeParts.structText_ofNode]
    simp [Hierarchy.code, Hierarchy.headerLines, ofLines, List.flatMap_assoc, outline]
  case refine_3 =>
    simp only [List.flatMap_map, TypeParts.definitionText_ofNode]
    simp [Hierarchy.code, Hierarchy.sourceLines, ofLines, List.flatMap_assoc]

/-- A family with a variant without fields, and with fields that are moved and fields that are not,
one of them with a type on two lines. -/
def mixed : Family :=
  ⟨"Expr", [⟨"Empty", []⟩,
    ⟨"Binary", ["std::unique_ptr<Expr> left", "const Token *op", "std::vector<Token> rest",
      "int\nlong depth"]⟩], by decide +kernel⟩

theorem code_partsAgree_mixed :
    ∃ u parts, mixed.code = .ok u ∧
      List.Forall₂ (TypeParts.Agree "Expr") mixed.variants parts ∧
      u.source = parts.flatMap TypeParts.definitionText := by
  have built : build "Expr" mixed.variants = .ok mixed := build_eq_ok_iff.2 ⟨rfl, rfl⟩
  have isCoded : mixed.code.toOption.isSome = true := by decide +kernel
  obtain ⟨u, coded⟩ := exists_ok_of_isSome isCoded
  obtain ⟨parts, agree, -, source⟩ := code_partsAgree built coded
  exact ⟨u, parts, coded, agree, source⟩

end Family

end NodeClasses
