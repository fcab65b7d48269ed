import NodeClasses.Family.Basic

/-!
# Hierarchies

A hierarchy is a family whose entries have all been read into fields: this is what code is written
from. `Hierarchy.ofFamily` reads the variants in order and the entries of each in order, and stops
at the first entry that is no field. `ofFamily_eq_ok_iff` says that it succeeds exactly if every
entry can be read, and with which fields.
-/

namespace NodeClasses
set_option autoImplicit false

open Text

/-- An entry that is no field, and where it stands. -/
structure MalformedEntry where
  /-- The base of the family. -/
  family : Text
  /-- The variant that holds the entry. -/
  variant : Text
  /-- The number of entries before it in the variant. -/
  index : Nat
  /-- The entry as written. -/
  entry : Text
  deriving DecidableEq, Repr

/-- The wording of a malformed entry. -/
def MalformedEntry.message (e : MalformedEntry) : Text :=
  "malformed field " ++ ofNat e.index ++ " (" ++ quoted e.entry ++ ") in variant " ++
    quoted (e.family ++ "::" ++ e.variant) ++ ": expected " ++ quoted "<type> <name>"

/-- A variant whose entries have been read. -/
structure Node where
  /-- The name of the generated type. -/
  name : Text
  /-- The members, in the order of declaration and construction. -/
  fields : List Field
  deriving DecidableEq, Repr

/-- A base type and its nodes, in order. -/
structure Hierarchy where
  /-- The name of the base type. -/
  base : Text
  /-- The node types derived from it. -/
  nodes : List Node
  deriving DecidableEq, Repr

namespace Hierarchy

/-- Reads the entries of a variant, where the first of them is the entry number `index`. -/
def readFields (family variant : Text) : Nat → List Text → Except MalformedEntry (List Field)
  | _, [] => .ok []
  | index, entry :: rest =>
    match Field.parse? entry with
    | none => .error ⟨family, variant, index, entry⟩
    | some field => (readFields family variant (index + 1) rest).map (field :: ·)

/-- Reads the entries of each variant. -/
def readNodes (family : Text) : List Variant → Except MalformedEntry (List Node)
  | [] => .ok []
  | v :: vs =>
    match readFields family v.name 0 v.entries with
    | .error e => .error e
    | .ok fields => (readNodes family vs).map (⟨v.name, fields⟩ :: ·)

/-- The hierarchy of a family, or the first of its entries that is no field. -/
def ofFamily (f : Family) : Except MalformedEntry Hierarchy :=
  (readNodes f.base f.variants).map fun nodes => ⟨f.base, nodes⟩

theorem readFields_eq_ok_iff {family variant : Text} {index : Nat} {entries : List Text}
    {fields : List Field} :
    readFields family variant index entries = .ok fields ↔
      entries.map Field.parse? = fields.map some := by
  induction entries generalizing index fields with
  | nil => cases fields <;> simp [readFields]
  | cons entry rest ih =>
    cases h : Field.parse? entry with
    | none => cases fields <;> simp [readFields, h]
    | some field =>
      cases fields with
      | nil =>
        cases hr : readFields family variant (index + 1) rest <;>
          simp [readFields, h, hr, Except.map]
      | cons first others =>
        rw [List.map_cons, List.map_cons, List.cons.injEq, ← @ih (index + 1) others, h,
          Option.some.injEq]
        cases hr : readFields family variant (index + 1) rest <;>
          simp [readFields, h, hr, Except.map]

theorem readNodes_eq_ok_iff {family : Text} {variants : List Variant} {nodes : List Node} :
    readNodes family variants = .ok nodes ↔
      variants.map (fun v => (v.name, v.entries.map Field.parse?)) =
        nodes.map fun n => (n.name, n.fields.map some) := by
  induction variants generalizing nodes with
  | nil => cases nodes <;> simp [readNodes]
  | cons v vs ih =>
    cases h : readFields family v.name 0 v.entries with
    | error e =>
      cases nodes with
      | nil => simp [readNodes, h]
      | cons n nodes =>
        have unread : v.entries.map Field.parse? ≠ n.fields.map some := by
          rw [Ne, ← @readFields_eq_ok_iff family v.name 0, h]
          simp
        simp [readNodes, h, unread]
    | ok fields =>
      have read := readFields_eq_ok_iff.1 h
      cases nodes with
      | nil => cases hr : readNodes family vs <;> simp [readNodes, h, hr, Except.map]
      | cons n nodes =>
        obtain ⟨name, members⟩ := n
        have same : fields.map some = members.map some ↔ fields = members :=
          List.map_inj_right fun _ _ => Option.some.inj
        rw [List.map_cons, List.map_cons, List.cons.injEq, ← ih, Prod.mk.injEq, read, same]
        cases hr : readNodes family vs <;> simp [readNodes, h, hr, Except.map]

/-- A family gives a hierarchy exactly if each of its entries can be read, and then with those
fields. -/
theorem ofFamily_eq_ok_iff {f : Family} {h : Hierarchy} :
    ofFamily f = .ok h ↔
      h.base = f.base ∧
        f.variants.map (fun v => (v.name, v.entries.map Field.parse?)) =
          h.nodes.map fun n => (n.name, n.fields.map some) := by
  rw [← @readNodes_eq_ok_iff f.base]
  obtain ⟨base, nodes⟩ := h
  cases hr : readNodes f.base f.variants <;> simp [ofFamily, hr, Except.map, eq_comm]

/-- The node of a variant, with those fields that can be read. -/
def nodeOf (v : Variant) : Node := ⟨v.name, v.fields⟩

theorem fields_eq {v : Variant} {fields : List Field}
    (read : v.entries.map Field.parse? = fields.map some) : v.fields = fields := by
  have entries : v.fields = (v.entries.map Field.parse?).filterMap id := by
    rw [List.filterMap_map]
    rfl
  rw [entries, read, List.filterMap_map]
  exact List.filterMap_some

theorem nodes_eq {vs : List Variant} {ns : List Node}
    (read : vs.map (fun v => (v.name, v.entries.map Field.parse?)) =
      ns.map fun n => (n.name, n.fields.map some)) : ns = vs.map nodeOf := by
  induction vs generalizing ns with
  | nil => exact List.map_eq_nil_iff.1 read.symm
  | cons v vs ih =>
    cases ns with
    | nil => simp at read
    | cons n ns =>
      simp only [List.map_cons, List.cons.injEq, Prod.mk.injEq] at read
      obtain ⟨⟨name, fields⟩, rest⟩ := read
      rw [List.map_cons, ← ih rest, nodeOf, name, fields_eq fields]

/-- A hierarchy has a node for each variant of its family. -/
theorem eq_of_ofFamily {f : Family} {h : Hierarchy} (read : ofFamily f = .ok h) :
    h = ⟨f.base, f.variants.map nodeOf⟩ := by
  obtain ⟨base, same⟩ := ofFamily_eq_ok_iff.1 read
  rw [← base, ← nodes_eq same]

end Hierarchy

end NodeClasses
