import NodeClasses.Hierarchy.Header
import NodeClasses.Proofs.Field.Declaration
import NodeClasses.Proofs.Text.Delimited

/-!
# Header lines tell where they end

The forward declarations of a hierarchy end in a blank line and tell how many nodes there are, the
member lines of a node end in a blank line or are missing, and all other lines have fixed places.
So a hierarchy is recovered from its header lines, whatever follows them:
`Hierarchy.delimited_headerLines`.
-/

namespace NodeClasses
set_option autoImplicit false

open Text

/-- The fields of the node are cut as they are read. -/
def Node.Canonical (n : Node) : Prop := ∀ f ∈ n.fields, f.Canonical

/-- The nodes of the hierarchy have such fields. -/
def Hierarchy.Canonical (h : Hierarchy) : Prop := ∀ n ∈ h.nodes, n.Canonical

namespace Field

theorem memberLine_inj {f g : Field} (hf : f.Canonical) (hg : g.Canonical)
    (same : f.memberLine = g.memberLine) : f = g := by
  unfold memberLine at same
  rw [List.append_left_inj, List.append_right_inj] at same
  exact (declaration_inj hf hg).1 same

theorem memberLine_ne_nil (f : Field) : f.memberLine ≠ [] := by
  simp [memberLine]

/-- A member line ends in a name, and the line of a constructor in a parameter list. -/
theorem memberLine_ne_constructorLine {f : Field} (hf : f.Canonical) (n : Node) :
    f.memberLine ≠ n.constructorLine := by
  intro same
  obtain ⟨rest, c, name⟩ := (List.eq_nil_or_concat f.name).resolve_left
    (Cpp.ne_nil_of_isIdentifier hf.name)
  have member : f.memberLine = "    " ++ f.type ++ " " ++ f.marks ++ rest ++ [c, ';'] := by
    simp [memberLine, declaration, name]
  have constructor : n.constructorLine = "    " ++ n.name ++ "(" ++ n.parameters ++ [')', ';'] := by
    simp [Node.constructorLine]
  rw [member, constructor] at same
  have ends : [c, ';'] = [')', ';'] := List.append_inj_right' same rfl
  have nameChar := Cpp.isNameChar_of_mem hf.name (show c ∈ f.name by simp [name])
  rw [List.head_eq_of_cons_eq ends] at nameChar
  exact absurd nameChar (by decide)

end Field

namespace Node

theorem memberLines_of_ne_nil {n : Node} (h : n.fields ≠ []) :
    n.memberLines = n.fields.map Field.memberLine ++ [[]] := if_neg h

theorem memberLines_of_eq_nil {n : Node} (h : n.fields = []) : n.memberLines = [] := if_pos h

theorem memberLines_ne_constructorLine {n m : Node} (hn : n.Canonical) (some : n.fields ≠ [])
    {r s : List Text} : n.memberLines ++ r ≠ m.constructorLine :: s := by
  obtain ⟨f, fs, fields⟩ := List.exists_cons_of_ne_nil some
  rw [memberLines_of_ne_nil some, fields]
  intro same
  have canonical : f.Canonical := hn f (by simp [fields])
  exact Field.memberLine_ne_constructorLine canonical m (List.head_eq_of_cons_eq same)

theorem delimited_memberLines {n m : Node} (hn : n.Canonical) (hm : m.Canonical)
    {r s : List Text} (same : n.memberLines ++ n.constructorLine :: r =
      m.memberLines ++ m.constructorLine :: s) : n.fields = m.fields ∧ r = s := by
  -- Where a block is missing, a constructor line stands in its place and is no member line.
  by_cases noFields : n.fields = [] <;> by_cases noFields' : m.fields = []
  case pos =>
    rw [memberLines_of_eq_nil noFields, memberLines_of_eq_nil noFields'] at same
    exact ⟨noFields.trans noFields'.symm, List.tail_eq_of_cons_eq same⟩
  case neg =>
    rw [memberLines_of_eq_nil noFields] at same
    exact absurd same.symm (memberLines_ne_constructorLine hm noFields')
  case pos =>
    rw [memberLines_of_eq_nil noFields'] at same
    exact absurd same (memberLines_ne_constructorLine hn noFields)
  case neg =>
    have block : Delimited (fun fs : List Field => ∀ f ∈ fs, f.Canonical) fun fs =>
        fs.map Field.memberLine ++ [[]] :=
      delimited_block (fun _ _ => Field.memberLine_inj) fun f _ => f.memberLine_ne_nil
    rw [memberLines_of_ne_nil noFields, memberLines_of_ne_nil noFields'] at same
    obtain ⟨fields, behind⟩ := block hn hm _ _ same
    exact ⟨fields, List.tail_eq_of_cons_eq behind⟩

/-- The opening line tells the name of a node, and the lines behind it its fields. -/
theorem delimited_headerLines (base : Text) : Delimited Canonical (headerLines base) := by
  intro n m hn hm r s same
  obtain ⟨name, fields⟩ := n
  obtain ⟨name', fields'⟩ := m
  unfold headerLines at same
  simp only [List.cons_append, List.append_assoc, List.cons.injEq] at same
  obtain ⟨opening, body⟩ := same
  have names : name = name' := by
    unfold openingLine at opening
    simpa only [List.append_left_inj, List.append_right_inj] using opening
  subst names
  obtain ⟨sameFields, closing⟩ := delimited_memberLines hn hm body
  obtain rfl : fields = fields' := sameFields
  exact ⟨rfl, List.append_cancel_left closing⟩

end Node

namespace Hierarchy

/-- The forward declarations tell the names of the nodes. -/
theorem names_of_forwardLines {h k : Hierarchy} {r s : List Text}
    (same : h.forwardLines ++ r = k.forwardLines ++ s) :
    h.nodes.map Node.name = k.nodes.map Node.name ∧ r = s := by
  let line (name : Text) : Text := "struct " ++ name ++ ";"
  have block : Delimited (fun names : List Text => ∀ name ∈ names, True) fun names =>
      names.map line ++ [[]] := by
    refine delimited_block (fun name name' _ _ same => ?_) fun name _ => by simp [line]
    simpa only [line, List.append_left_inj, List.append_right_inj] using same
  have forward (h : Hierarchy) : h.forwardLines = (h.nodes.map Node.name).map line ++ [[]] := by
    rw [List.map_map]
    rfl
  rw [forward, forward] at same
  exact block (by simp) (by simp) _ _ same

/-- The lines of the base tell its name, where the number of nodes is known. -/
theorem base_of_baseLines {h k : Hierarchy} (length : h.nodes.length = k.nodes.length)
    {r s : List Text} (same : h.baseLines ++ r = k.baseLines ++ s) : h.base = k.base ∧ r = s := by
  unfold baseLines baseOpening at same
  simp only [List.cons_append, List.nil_append, List.append_assoc, List.cons.injEq] at same
  obtain ⟨opening, -, methods⟩ := same
  have base : h.base = k.base := by
    simpa only [List.append_left_inj, List.append_right_inj] using opening
  obtain ⟨-, closing⟩ := List.append_inj methods (by simp [length])
  have closings : h.baseClosing = k.baseClosing := by rw [baseClosing, baseClosing, base]
  rw [closings] at closing
  exact ⟨base, List.append_cancel_left closing⟩

/-- **A hierarchy is recovered from its header lines**, whatever follows them. -/
theorem delimited_headerLines : Delimited Canonical headerLines := by
  intro h k hh hk r s same
  unfold headerLines at same
  rw [List.append_assoc, List.append_assoc, List.append_assoc, List.append_assoc] at same
  obtain ⟨names, defined⟩ := names_of_forwardLines same
  have length : h.nodes.length = k.nodes.length := by simpa using congrArg List.length names
  obtain ⟨base, nodes⟩ := base_of_baseLines length defined
  rw [base] at nodes
  obtain ⟨sameNodes, behind⟩ :=
    (Node.delimited_headerLines k.base).flatMap_append length hh hk nodes
  obtain ⟨base', nodes'⟩ := h
  exact ⟨congrArg₂ Hierarchy.mk base sameNodes, behind⟩

theorem headerLines_ne_nil (h : Hierarchy) : h.headerLines ≠ [] := by
  simp [headerLines, forwardLines]

end Hierarchy

end NodeClasses
