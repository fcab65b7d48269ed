import NodeClasses.Proofs.CodeUnit.Recovery

/-!
# Families that grow

A family that gets more variants keeps the code of those it had. Its source text goes on behind the
one that was there. Its header has three parts with something for each variant, and each of them
grows at its end, while the texts between them depend on the base alone: `build_append_grows`. What
was coded before stays as it was, and the first entry that is no field is told as before.
-/

namespace NodeClasses
set_option autoImplicit false

open Text

/-- The parts of a header that have something for each variant. -/
@[ext] structure HeaderParts where
  /-- Announces the types. -/
  announcements : Text
  /-- Declares the methods of the visitor. -/
  methods : Text
  /-- Defines the types. -/
  types : Text
  deriving DecidableEq, Repr

namespace HeaderParts

/-- Each part followed by that of the other. -/
protected def append (p q : HeaderParts) : HeaderParts where
  announcements := p.announcements ++ q.announcements
  methods := p.methods ++ q.methods
  types := p.types ++ q.types

instance : Append HeaderParts := ⟨HeaderParts.append⟩

/-- The parts for variants with the given base. -/
def ofVariants (base : Text) (vs : List Variant) : HeaderParts where
  announcements := ofLines (vs.map fun v => (Hierarchy.nodeOf v).forwardLine)
  methods := ofLines (vs.map fun v => (Hierarchy.nodeOf v).visitLine)
  types := ofLines (vs.flatMap fun v => (Hierarchy.nodeOf v).headerLines base)

/-- What stands between the announcements and the methods: the definitions of the base and of its
visitor are opened. -/
def opening (base : Text) : Text := ofLines ([] :: Hierarchy.baseOpening ⟨base, []⟩)

/-- What stands between the methods and the types: those definitions are closed. -/
def closing (base : Text) : Text := ofLines (Hierarchy.baseClosing ⟨base, []⟩)

/-- The header with these parts. -/
def header (base : Text) (p : HeaderParts) : Text :=
  p.announcements ++ opening base ++ p.methods ++ closing base ++ p.types

theorem ofVariants_append (base : Text) (vs ws : List Variant) :
    ofVariants base (vs ++ ws) = ofVariants base vs ++ ofVariants base ws := by
  apply HeaderParts.ext
  · change ofLines _ = ofLines _ ++ ofLines _
    rw [List.map_append, ofLines_append]
  · change ofLines _ = ofLines _ ++ ofLines _
    rw [List.map_append, ofLines_append]
  · change ofLines _ = ofLines _ ++ ofLines _
    rw [List.flatMap_append, ofLines_append]

end HeaderParts

namespace Family

/-- Variants may be left out of a family, as long as one is left. -/
theorem WellFormed.of_sublist {base : Text} {vs ws : List Variant} (h : WellFormed base ws)
    (sub : vs.Sublist ws) (nonempty : vs ≠ []) : WellFormed base vs := by
  constructor
  case typeName => exact h.typeName
  case nonempty => exact nonempty
  case variantsWellFormed => exact fun v member => h.variantsWellFormed v (sub.subset member)
  case names_nodup => exact h.names_nodup.sublist (sub.map Variant.name)

/-- The header of a family that can be coded is made of its parts. -/
theorem header_of_code {f : Family} {u : CodeUnit} (coded : f.code = .ok u) :
    u.header = (HeaderParts.ofVariants f.base f.variants).header f.base := by
  rw [eq_of_code coded]
  simp [Hierarchy.code, Hierarchy.headerLines, Hierarchy.forwardLines, Hierarchy.baseLines,
    Hierarchy.baseOpening, Hierarchy.baseClosing, outline, HeaderParts.header,
    HeaderParts.ofVariants, HeaderParts.opening, HeaderParts.closing, List.flatMap_map,
    Function.comp_def]

theorem source_of_code {f : Family} {u : CodeUnit} (coded : f.code = .ok u) :
    u.source = ofLines (f.variants.flatMap fun v => (Hierarchy.nodeOf v).sourceLines) := by
  rw [eq_of_code coded, Hierarchy.code, Hierarchy.sourceLines, outline, List.flatMap_map]

/-- A family given by two lists of variants is coded as those given by each of them. -/
structure GrownFrom (base : Text) (vs ws : List Variant) (f g h : Family) : Prop where
  coded_iff : (∃ u, f.code = .ok u) ↔ (∃ v, g.code = .ok v) ∧ ∃ w, h.code = .ok w
  firstFault : ∀ e, g.code = .error e → f.code = .error e
  secondFault : ∀ v e, g.code = .ok v → h.code = .error e → f.code = .error e
  source : ∀ u v w, f.code = .ok u → g.code = .ok v → h.code = .ok w →
    u.source = v.source ++ w.source
  /-- Each part of a header grows at its end. -/
  parts : HeaderParts.ofVariants base (vs ++ ws) =
    HeaderParts.ofVariants base vs ++ HeaderParts.ofVariants base ws
  header : ∀ u, f.code = .ok u → u.header = (HeaderParts.ofVariants base (vs ++ ws)).header base
  firstHeader : ∀ v, g.code = .ok v → v.header = (HeaderParts.ofVariants base vs).header base
  secondHeader : ∀ w, h.code = .ok w → w.header = (HeaderParts.ofVariants base ws).header base

/-- The first malformed entry of a family is that of its first variants, or else that of the
others. -/
theorem firstMalformed_iff {f g h : Family} (first : f.base = g.base) (second : f.base = h.base)
    (variants : f.variants = g.variants ++ h.variants) (e : MalformedEntry) :
    f.FirstMalformed e ↔ g.FirstMalformed e ∨ g.Readable ∧ h.FirstMalformed e := by
  unfold FirstMalformed Readable
  rw [variants, firstFault_append, ← first, ← second]

theorem grownFrom_of_variants {f g h : Family} (first : f.base = g.base)
    (second : f.base = h.base) (variants : f.variants = g.variants ++ h.variants) :
    GrownFrom f.base g.variants h.variants f g h := by
  have fault := firstMalformed_iff first second variants
  constructor
  case coded_iff =>
    rw [exists_code_iff, exists_code_iff, exists_code_iff]
    unfold Readable
    rw [variants, List.forall_mem_append]
  case firstFault =>
    intro e failed
    rw [code_eq_error_iff] at failed ⊢
    exact (fault e).2 (.inl failed)
  case secondFault =>
    intro v e coded failed
    rw [code_eq_error_iff] at failed ⊢
    exact (fault e).2 (.inr ⟨exists_code_iff.1 ⟨v, coded⟩, failed⟩)
  case source =>
    intro u v w coded codedFirst codedSecond
    rw [source_of_code coded, source_of_code codedFirst, source_of_code codedSecond, variants,
      List.flatMap_append, ofLines_append]
  case parts => exact HeaderParts.ofVariants_append f.base g.variants h.variants
  case header =>
    intro u coded
    rw [← variants]
    exact header_of_code coded
  case firstHeader =>
    intro v coded
    rw [first]
    exact header_of_code coded
  case secondHeader =>
    intro w coded
    rw [second]
    exact header_of_code coded

/-- **Families grow.** Where two lists of variants together make a family, each of them makes one,
and the whole is coded as the first of these and then the second. -/
theorem build_append_grows {base : Text} {vs ws : List Variant} {f : Family} (before : vs ≠ [])
    (behind : ws ≠ []) (built : build base (vs ++ ws) = .ok f) :
    ∃ g h, build base vs = .ok g ∧ build base ws = .ok h ∧ GrownFrom base vs ws f g h := by
  obtain ⟨rfl, variants⟩ := build_eq_ok_iff.1 built
  have whole : WellFormed f.base (vs ++ ws) := variants ▸ f.wellFormed
  have first := whole.of_sublist (List.sublist_append_left vs ws) before
  have second := whole.of_sublist (List.sublist_append_right vs ws) behind
  let g : Family := ⟨f.base, vs, first⟩
  let h : Family := ⟨f.base, ws, second⟩
  have split : f.variants = g.variants ++ h.variants := variants
  have firstBase : f.base = g.base := rfl
  have secondBase : f.base = h.base := rfl
  refine ⟨g, h, build_eq_ok_iff.2 ⟨rfl, rfl⟩, build_eq_ok_iff.2 ⟨rfl, rfl⟩, ?_⟩
  exact grownFrom_of_variants firstBase secondBase split

/-- Variants that a family has at first. -/
def earlierKinds : List Variant := [⟨"Literal", ["std::any value"]⟩, ⟨"Nil", []⟩]

/-- Variants that it gets later. -/
def laterKinds : List Variant :=
  [⟨"Get", ["std::unique_ptr<Expr> object", "antlr4::Token *name"]⟩]

theorem build_append_grows_later :
    ∃ f g h, build "Expr" (earlierKinds ++ laterKinds) = .ok f ∧ build "Expr" earlierKinds = .ok g ∧
      build "Expr" laterKinds = .ok h ∧ GrownFrom "Expr" earlierKinds laterKinds f g h ∧
        ∃ u, f.code = .ok u := by
  let f : Family := ⟨"Expr", earlierKinds ++ laterKinds, by decide +kernel⟩
  have built : build "Expr" (earlierKinds ++ laterKinds) = .ok f := build_eq_ok_iff.2 ⟨rfl, rfl⟩
  have before : earlierKinds ≠ [] := by decide
  have behind : laterKinds ≠ [] := by decide
  obtain ⟨g, h, first, second, grown⟩ := build_append_grows before behind built
  have isCoded : f.code.toOption.isSome = true := by decide +kernel
  exact ⟨f, g, h, built, first, second, grown, exists_ok_of_isSome isCoded⟩

end Family

end NodeClasses
