import NodeClasses.Proofs.Cpp.Parameters
import NodeClasses.Proofs.Family.Construction
import NodeClasses.Proofs.Field.Grammar

/-!
# One parameter for each entry

The declarations of a variant's fields are joined by commas in the parameter list of its
constructor. Types are taken as they are written, so their commas, brackets and semicolons are in
the list as well. `code_parameters` says for which types the list is cut into one parameter for each
entry, and that a semicolon is in it only if one is in a type.
-/

namespace NodeClasses
set_option autoImplicit false

open Text

namespace Field

/-- What a declaration has behind its type. -/
def markedName (f : Field) : Text := " " ++ f.marks ++ f.name

theorem declaration_eq (f : Field) : f.declaration = f.type ++ f.markedName := by
  simp [declaration, markedName]

/-- The characters that separate, end or bracket declarations. -/
def punctuation : Text := [',', ';', '<', '(', '[', '\x7b', '>', ')', ']', '\x7d']

theorem mem_punctuation_of_isBracket {c : Char} (bracket : Cpp.isBracket c = true) :
    c ∈ punctuation := by
  rcases Bool.or_eq_true_iff.1 bracket with opens | closes
  · unfold Cpp.Bracket.opening? at opens
    split at opens <;> first | decide | cases opens
  · unfold Cpp.Bracket.closing? at closes
    split at closes <;> first | decide | cases closes

/-- Behind the type there is no punctuation. -/
theorem Canonical.notMem_punctuation {f : Field} (h : f.Canonical) :
    ∀ c ∈ f.markedName, c ∉ punctuation := by
  intro c member
  rw [markedName, List.mem_append, List.mem_append] at member
  rcases member with (blank | mark) | inName
  · obtain rfl : c = ' ' := by simpa using blank
    decide
  · rcases isMark_iff.1 (h.marks c mark) with rfl | rfl <;> decide
  · intro inside
    have noName : punctuation.all (fun d => !Cpp.isNameChar d) = true := by decide
    have bare := List.all_eq_true.1 noName c inside
    exact absurd (Cpp.isNameChar_of_mem h.name inName) (by simpa using bare)

theorem Canonical.not_isBracket {f : Field} (h : f.Canonical) :
    ∀ c ∈ f.markedName, Cpp.isBracket c = false := by
  intro c member
  rw [Bool.eq_false_iff]
  exact fun bracket => h.notMem_punctuation c member (mem_punctuation_of_isBracket bracket)

theorem Canonical.commasInside_iff {f : Field} (h : f.Canonical) :
    Cpp.CommasInside [] f.declaration ↔ Cpp.CommasInside [] f.type := by
  have uncut : ',' ∉ f.markedName := fun member => h.notMem_punctuation _ member (by decide)
  rw [declaration_eq, Cpp.commasInside_append_iff uncut h.not_isBracket]

theorem Canonical.brackets_declaration {f : Field} (h : f.Canonical) :
    Cpp.brackets f.declaration = Cpp.brackets f.type := by
  rw [declaration_eq, Cpp.brackets_append, Cpp.brackets_eq_nil h.not_isBracket, List.append_nil]

theorem Canonical.semicolon_iff {f : Field} (h : f.Canonical) :
    ';' ∈ f.declaration ↔ ';' ∈ f.type := by
  have unended : ';' ∉ f.markedName := fun member => h.notMem_punctuation _ member (by decide)
  rw [declaration_eq, List.mem_append, or_iff_left unended]

/-- What was read has something other than a blank at both ends of its declaration. -/
theorem declaration_bare {entry : Text} {f : Field} (read : parse? entry = some f) :
    StartsBare f.declaration ∧ EndsBare f.declaration := by
  obtain ⟨s, grammatical, rfl, -⟩ := exists_spelling read
  constructor
  · rw [declaration_eq]
    exact grammatical.type_starts.append _
  · rw [declaration, List.append_assoc]
    exact endsBare_append (endsBare_of_forall grammatical.last_bare grammatical.last_ne_nil) _

end Field

namespace Variant

/-- The parameters are one for each entry: the declaration of the field that the entry is. -/
def OneForEach (v : Variant) (parameters : List Text) : Prop :=
  v.entries.map (fun entry => (Field.parse? entry).map Field.declaration) = parameters.map some

/-- What can be told from the types about the text between the parentheses of the constructor. -/
structure ParametersTell (v : Variant) (between : Text) : Prop where
  /-- There is one parameter for each entry exactly if each comma in a type is in a pair of brackets
  of that type, and no bracket that a type leaves open is closed in a type behind it. -/
  oneForEach_iff : v.OneForEach (Cpp.parametersOf between) ↔
    (∀ d ∈ v.fields, Cpp.CommasInside [] d.type) ∧ Cpp.BracketsApart (v.fields.map Field.type)
  semicolon_iff : ';' ∈ between ↔ ∃ d ∈ v.fields, ';' ∈ d.type

/-- Where each entry is a field, the declarations are the one parameter for each. -/
theorem oneForEach_iff {v : Variant} (read : v.entries.map Field.parse? = v.fields.map some)
    (parameters : List Text) :
    v.OneForEach parameters ↔ parameters = v.fields.map Field.declaration := by
  have declared : v.entries.map (fun entry => (Field.parse? entry).map Field.declaration) =
      (v.fields.map Field.declaration).map some := by
    have parsed := congrArg (List.map (Option.map Field.declaration)) read
    rw [List.map_map, List.map_map] at parsed
    rw [List.map_map]
    exact parsed
  rw [OneForEach, declared, List.map_inj_right fun _ _ => Option.some.inj, eq_comm]

theorem parametersTell {v : Variant} (read : v.entries.map Field.parse? = v.fields.map some) :
    v.ParametersTell (Hierarchy.nodeOf v).parameters := by
  have parsed : ∀ d ∈ v.fields, ∃ entry, Field.parse? entry = some d := by
    intro d member
    obtain ⟨entry, -, parsed⟩ := List.mem_filterMap.1 member
    exact ⟨entry, parsed⟩
  have canonical : ∀ d ∈ v.fields, d.Canonical := fun d member =>
    (parsed d member).elim fun _ => Field.canonical_of_parse?
  have bare : ∀ t ∈ v.fields.map Field.declaration, StartsBare t ∧ EndsBare t :=
    List.forall_mem_map.2 fun d member => (parsed d member).elim fun _ => Field.declaration_bare
  have brackets : (v.fields.map Field.declaration).map Cpp.brackets =
      (v.fields.map Field.type).map Cpp.brackets := by
    rw [List.map_map, List.map_map, List.map_inj_left]
    exact fun d member => (canonical d member).brackets_declaration
  constructor
  case oneForEach_iff =>
    have commas : (∀ d ∈ v.fields, Cpp.CommasInside [] d.declaration) ↔
        ∀ d ∈ v.fields, Cpp.CommasInside [] d.type :=
      forall₂_congr fun d member => (canonical d member).commasInside_iff
    rw [oneForEach_iff read, Node.parameters, Hierarchy.nodeOf,
      Cpp.parametersOf_intercalate_iff bare, List.forall_mem_map, commas,
      Cpp.bracketsApart_congr brackets]
  case semicolon_iff =>
    rw [Node.parameters, Hierarchy.nodeOf, mem_intercalate_iff (by simp)]
    simp only [List.mem_map, exists_exists_and_eq_and]
    exact exists_congr fun d => and_congr_right fun member => (canonical d member).semicolon_iff

end Variant

namespace Family

/-- **One parameter for each entry.** Behind the base, the header has the struct of each variant. It
depends on the types alone whether the parameters of its constructor are one for each entry. -/
theorem code_parameters {base : Text} {variants : List Variant} {f : Family} {u : CodeUnit}
    (built : build base variants = .ok f) (coded : f.code = .ok u) :
    u.header = ofLines (f.outline.forwardLines ++ f.outline.baseLines) ++
        variants.flatMap (fun v => (TypeParts.ofNode (Hierarchy.nodeOf v)).structText base) ∧
      ∀ v ∈ variants, v.ParametersTell (Hierarchy.nodeOf v).parameters := by
  obtain ⟨rfl, rfl⟩ := build_eq_ok_iff.1 built
  have read := read_of_code coded
  obtain rfl := eq_of_code coded
  refine ⟨?_, fun v member => Variant.parametersTell (read v member)⟩
  simp only [TypeParts.structText_ofNode]
  simp [Hierarchy.code, Hierarchy.headerLines, ofLines, List.flatMap_assoc, List.flatMap_map,
    outline]

/-- A family with a variant without fields, and with types that have commas and comparisons in pairs
of brackets, and one that has a bracket without its partner. -/
def bracketed : Family :=
  ⟨"Expr", [⟨"Empty", []⟩,
    ⟨"Call", ["std::map<int, Pair<A, B>> names", "Array<A, (1 < 2)> *pair", "Open< left",
      "A right"]⟩], by decide +kernel⟩

theorem code_parameters_bracketed :
    ∃ u, bracketed.code = .ok u ∧ ∀ v ∈ bracketed.variants,
      v.OneForEach (Cpp.parametersOf (Hierarchy.nodeOf v).parameters) ∧
        ';' ∉ (Hierarchy.nodeOf v).parameters := by
  have built : build "Expr" bracketed.variants = .ok bracketed := build_eq_ok_iff.2 ⟨rfl, rfl⟩
  have isCoded : bracketed.code.toOption.isSome = true := by decide +kernel
  have types : ∀ v ∈ bracketed.variants, (∀ d ∈ v.fields, Cpp.CommasInside [] d.type) ∧
      Cpp.BracketsApart (v.fields.map Field.type) := by decide +kernel
  have unended : ∀ v ∈ bracketed.variants, ¬ ∃ d ∈ v.fields, ';' ∈ d.type := by decide +kernel
  obtain ⟨u, coded⟩ := exists_ok_of_isSome isCoded
  obtain ⟨-, tell⟩ := code_parameters built coded
  refine ⟨u, coded, fun v member => ⟨?_, ?_⟩⟩
  · exact (tell v member).oneForEach_iff.2 (types v member)
  · exact fun inside => unended v member ((tell v member).semicolon_iff.1 inside)

/-- A family with an entry that is read as one field and written as two parameters. -/
def packed : Family := ⟨"Expr", [⟨"Pair", ["int a, int b"]⟩], by decide +kernel⟩

/-- Not every entry is one parameter. -/
theorem not_code_parameters :
    ¬ ∀ (base : Text) (variants : List Variant) (f : Family) (u : CodeUnit),
      build base variants = .ok f → f.code = .ok u → ∀ v ∈ variants,
        (Cpp.parametersOf (Hierarchy.nodeOf v).parameters).length = v.entries.length ∧
          ';' ∉ (Hierarchy.nodeOf v).parameters := by
  intro claim
  have built : build "Expr" packed.variants = .ok packed := build_eq_ok_iff.2 ⟨rfl, rfl⟩
  have isCoded : packed.code.toOption.isSome = true := by decide +kernel
  obtain ⟨u, coded⟩ := exists_ok_of_isSome isCoded
  have arity := (claim _ _ _ u built coded ⟨"Pair", ["int a, int b"]⟩ List.mem_cons_self).1
  revert arity
  decide +kernel

end Family

end NodeClasses
