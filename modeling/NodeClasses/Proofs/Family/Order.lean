import NodeClasses.Proofs.Hierarchy.HeaderNames
import NodeClasses.Proofs.Hierarchy.SourceNames

/-!
# The order of variants

The code of a family lists its variants in five places. Read line by line, each place tells the
variants in the order in which they were given, each once: `code_listsInOrder`. The visitor's
methods all stand inside the visitor, and in the source file the constructor of a variant stands
in front of its `accept`, with nothing of another variant between them.
-/

namespace NodeClasses
set_option autoImplicit false

open Text

/-- The lines between the first line that opens a block and the next one that closes it. -/
def blockOf (opening closing : Text) (lines : List Text) : List Text :=
  ((lines.dropWhile (· != opening)).drop 1).takeWhile (· != closing)

theorem blockOf_append {opening closing : Text} {before inside : List Text}
    (first : opening ∉ before) (inner : closing ∉ inside) (after : List Text) :
    blockOf opening closing (before ++ opening :: (inside ++ closing :: after)) = inside := by
  have differs {l : Text} {ls : List Text} (absent : l ∉ ls) : ∀ m ∈ ls, (m != l) = true := by
    rintro m member
    rw [bne_iff_ne]
    rintro rfl
    exact absent member
  rw [blockOf, List.dropWhile_append_of_pos (differs first)]
  simp [List.takeWhile_append_of_pos (differs inner)]

/-- The lines of the visitor inside the definition of the base. -/
def visitorBlock (base : Text) (lines : List Text) : List Text :=
  blockOf "    struct Visitor \x7b" "    \x7d;"
    (blockOf ("struct " ++ base ++ " \x7b") "\x7d;" lines)

theorem isInfix_blockOf (opening closing : Text) (lines : List Text) :
    blockOf opening closing lines <:+: lines := by
  have tail : (lines.dropWhile (· != opening)).drop 1 <:+ lines :=
    (List.drop_suffix 1 _).trans (List.dropWhile_suffix _)
  exact (List.takeWhile_prefix _).isInfix.trans tail.isInfix

theorem isInfix_visitorBlock (base : Text) (lines : List Text) :
    visitorBlock base lines <:+: lines :=
  (isInfix_blockOf _ _ _).trans (isInfix_blockOf _ _ _)

/-- The visitor has a method for each node, and its destructor. -/
theorem Hierarchy.visitorBlock_headerLines (h : Hierarchy) :
    visitorBlock h.base h.headerLines =
      h.nodes.map Node.visitLine ++ [("        virtual ~Visitor() \x7b\x7d" : Text)] := by
  let visitor := h.nodes.map Node.visitLine ++ [("        virtual ~Visitor() \x7b\x7d" : Text)]
  let behind : List Text := ["", "    virtual void accept(Visitor &v) const = 0;",
    "    virtual ~" ++ h.base ++ "() \x7b\x7d"]
  have lines : h.headerLines = h.forwardLines ++ ("struct " ++ h.base ++ " \x7b" : Text) ::
      (("    struct Visitor \x7b" : Text) :: (visitor ++ ("    \x7d;" : Text) :: behind) ++
        ("\x7d;" : Text) :: [] :: h.nodes.flatMap (Node.headerLines h.base)) := by
    simp [Hierarchy.headerLines, Hierarchy.baseLines, Hierarchy.baseOpening, Hierarchy.baseClosing,
      visitor, behind, visitorName, acceptName]
  have first : ("struct " ++ h.base ++ " \x7b" : Text) ∉ h.forwardLines := by
    intro member
    rcases List.mem_append.1 member with announced | blank
    · obtain ⟨n, -, same⟩ := List.mem_map.1 announced
      have ends : ("struct " ++ n.name : Text) ++ [';'] =
          ("struct " ++ h.base ++ " " : Text) ++ ['\x7b'] := by
        simpa [Node.forwardLine] using same
      exact absurd (List.append_inj_right' ends rfl) (by decide)
    · simp at blank
  have outer : ("\x7d;" : Text) ∉
      ("    struct Visitor \x7b" : Text) :: (visitor ++ ("    \x7d;" : Text) :: behind) := by
    simp [visitor, behind, Node.visitLine]
  have inner : ("    \x7d;" : Text) ∉ visitor := by
    simp [visitor, Node.visitLine]
  rw [visitorBlock, lines, blockOf_append first outer]
  exact blockOf_append List.not_mem_nil inner behind

theorem Hierarchy.filterMap_visitorBlock {h : Hierarchy} (named : h.Named) :
    (visitorBlock h.base h.headerLines).filterMap LineForm.visit.name? = h.nodes.map Node.name := by
  have destructor : LineForm.visit.name? ("        virtual ~Visitor() \x7b\x7d" : Text) = none :=
    LineForm.name?_eq_none_of_opening (by decide +kernel)
  rw [visitorBlock_headerLines, List.filterMap_append, List.filterMap_map,
    ← List.filterMap_eq_map', List.filterMap_cons, destructor, List.filterMap_nil, List.append_nil]
  exact List.filterMap_congr fun n member => LineForm.name?_visit_visitLine (named.nodes n member)

/-- Where a part of the lines tells as much as all of them, the lines around it tell nothing. -/
theorem silent_around {α : Type} {read : Text → Option α} {before inside after : List Text}
    (same : (before ++ inside ++ after).filterMap read = inside.filterMap read) :
    ∀ l ∈ before ++ after, read l = none := by
  have length := congrArg List.length same
  simp only [List.filterMap_append, List.length_append] at length
  have none : (before ++ after).filterMap read = [] := by
    apply List.eq_nil_of_length_eq_zero
    rw [List.filterMap_append, List.length_append]
    omega
  exact List.filterMap_eq_nil_iff.1 none

/-- The places in which code lists types all list these names, in this order. -/
structure ListsInOrder (base : Text) (names : List Text) (u : CodeUnit) : Prop where
  forward : LineForm.forward.names u.header = names
  visit : LineForm.visit.names u.header = names
  /-- No method of a visitor stands outside the visitor of the base. -/
  visitInside : ∃ before after,
    linesOf u.header = before ++ visitorBlock base (linesOf u.header) ++ after ∧
      ∀ l ∈ before ++ after, LineForm.visit.name? l = none
  derived : (LineForm.derived base).names u.header = names
  constructor : LineForm.constructor.names u.source = names
  accept : LineForm.accept.names u.source = names
  /-- The definitions of a type stand side by side. -/
  definitions : (linesOf u.source).filterMap Definition.ofLine? = names.flatMap Definition.ofType

namespace Family

theorem linesOf_header {f : Family} (unbroken : f.Unbroken) :
    linesOf f.outline.code.header = f.outline.headerLines :=
  linesOf_ofLines (Hierarchy.unbroken_headerLines (unbroken_outline unbroken))

theorem linesOf_source {f : Family} (unbroken : f.Unbroken) :
    linesOf f.outline.code.source = f.outline.sourceLines :=
  linesOf_ofLines (Hierarchy.unbroken_sourceLines (unbroken_outline unbroken))

/-- **Variants keep their order.** The code of a family lists the variants in the order in which
they were given, each once, wherever it lists them. -/
theorem code_listsInOrder {base : Text} {variants : List Variant} {f : Family} {u : CodeUnit}
    (built : build base variants = .ok f) (coded : f.code = .ok u) (unbroken : f.Unbroken) :
    ListsInOrder base (variants.map Variant.name) u := by
  obtain ⟨rfl, rfl⟩ := build_eq_ok_iff.1 built
  obtain rfl := eq_of_code coded
  have named := f.named_outline
  have canonical := f.canonical_outline
  have header := linesOf_header unbroken
  have source := linesOf_source unbroken
  rw [← nodes_outline]
  constructor
  case forward => rw [LineForm.names, header, LineForm.filterMap_forward named]
  case visit => rw [LineForm.names, header, LineForm.filterMap_visit named canonical]
  case visitInside =>
    have inside := Hierarchy.filterMap_visitorBlock named
    have all := LineForm.filterMap_visit named canonical
    obtain ⟨before, after, lines⟩ := isInfix_visitorBlock f.base f.outline.headerLines
    rw [header]
    exact ⟨before, after, lines.symm, silent_around (by rw [lines, all]; exact inside.symm)⟩
  case derived =>
    rw [LineForm.names, header]
    exact LineForm.filterMap_derived named
  case constructor => rw [LineForm.names, source, Hierarchy.filterMap_constructor named.nodes]
  case accept => rw [LineForm.names, source, Hierarchy.filterMap_accept named.nodes]
  case definitions => rw [source, Hierarchy.filterMap_definition named.nodes]

/-- A family with a name that goes on where another one ends, and with types that imitate generated
lines. -/
def imitating : Family :=
  ⟨"Expr", [⟨"Lit", []⟩, ⟨"Literal", ["struct Lit; x", "Lit::Lit(void) y"]⟩], by decide +kernel⟩

theorem code_listsInOrder_imitating :
    ∃ u, imitating.code = .ok u ∧ ListsInOrder "Expr" ["Lit", "Literal"] u := by
  have built : build "Expr" imitating.variants = .ok imitating := build_eq_ok_iff.2 ⟨rfl, rfl⟩
  have unbroken : imitating.Unbroken := by unfold Unbroken; decide +kernel
  have isCoded : imitating.code.toOption.isSome = true := by decide +kernel
  obtain ⟨u, coded⟩ := exists_ok_of_isSome isCoded
  exact ⟨u, coded, code_listsInOrder built coded unbroken⟩

end Family

end NodeClasses
