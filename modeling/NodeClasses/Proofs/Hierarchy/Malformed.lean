import NodeClasses.Job

/-!
# The first malformed entry

Coding stops at the first entry that is no field: the first family with such an entry, in it the
first variant, in that the first entry. `FirstMalformed` says so apart from any reader, at each of
these levels; `Table.code_eq_error_iff` says that this is the entry that is told, and
`pushAll_eq_ok_iff` that families without such an entry are all coded, one behind the other.
-/

namespace NodeClasses
set_option autoImplicit false

/-- The first element that is not good, and the fault that it has. -/
def FirstFault {α ε : Type} (good : α → Prop) (fault : α → ε → Prop) (xs : List α) (e : ε) : Prop :=
  ∃ before x after, xs = before ++ x :: after ∧ (∀ y ∈ before, good y) ∧ fault x e

section FirstFault

variable {α ε : Type} {good : α → Prop} {fault : α → ε → Prop}

@[simp] theorem not_firstFault_nil (e : ε) : ¬ FirstFault good fault [] e := by
  simp [FirstFault]

theorem firstFault_cons {x : α} {xs : List α} {e : ε} :
    FirstFault good fault (x :: xs) e ↔ fault x e ∨ good x ∧ FirstFault good fault xs e := by
  constructor
  · rintro ⟨before, y, after, split, others, found⟩
    rcases List.cons_eq_append_iff.1 split with ⟨rfl, same⟩ | ⟨before, rfl, rest⟩
    · obtain ⟨rfl, -⟩ := List.cons.inj same
      exact .inl found
    · obtain ⟨first, others⟩ := List.forall_mem_cons.1 others
      exact .inr ⟨first, before, y, after, rest, others, found⟩
  · rintro (found | ⟨first, before, y, after, rfl, others, found⟩)
    · exact ⟨[], x, xs, rfl, by simp, found⟩
    · exact ⟨x :: before, y, after, rfl, List.forall_mem_cons.2 ⟨first, others⟩, found⟩

/-- The first fault of two lists is that of the first one, or else that of the second. -/
theorem firstFault_append {xs ys : List α} {e : ε} :
    FirstFault good fault (xs ++ ys) e ↔
      FirstFault good fault xs e ∨ (∀ x ∈ xs, good x) ∧ FirstFault good fault ys e := by
  induction xs with
  | nil => simp
  | cons x xs ih =>
    rw [List.cons_append, firstFault_cons, firstFault_cons, ih, List.forall_mem_cons]
    constructor
    · rintro (here | ⟨first, later | ⟨others, behind⟩⟩)
      · exact .inl (.inl here)
      · exact .inl (.inr ⟨first, later⟩)
      · exact .inr ⟨⟨first, others⟩, behind⟩
    · rintro ((here | ⟨first, later⟩) | ⟨⟨first, others⟩, behind⟩)
      · exact .inl here
      · exact .inr ⟨first, .inl later⟩
      · exact .inr ⟨first, .inr ⟨others, behind⟩⟩

end FirstFault

/-- The entry can be read. -/
def IsEntry (entry : Text) : Prop := ∃ field, Field.parse? entry = some field

/-- Every entry of the variant can be read. -/
def Variant.Readable (v : Variant) : Prop := ∀ entry ∈ v.entries, IsEntry entry

/-- Every entry of the family can be read. -/
def Family.Readable (f : Family) : Prop := ∀ v ∈ f.variants, v.Readable

/-- The entry is no field, and the `index` entries before it can be read. -/
def FirstUnread (entries : List Text) (index : Nat) (entry : Text) : Prop :=
  ∃ before after, entries = before ++ entry :: after ∧ before.length = index ∧
    (∀ e ∈ before, IsEntry e) ∧ Field.parse? entry = none

/-- The malformed entry is the first of the variant, in the family with that base. -/
def Variant.FirstMalformed (base : Text) (v : Variant) (e : MalformedEntry) : Prop :=
  e.family = base ∧ e.variant = v.name ∧ FirstUnread v.entries e.index e.entry

/-- The malformed entry is the first of the first variant that has one. -/
def Family.FirstMalformed (f : Family) (e : MalformedEntry) : Prop :=
  FirstFault Variant.Readable (Variant.FirstMalformed f.base) f.variants e

/-- The malformed entry is the first of the first family that has one. -/
def Table.FirstMalformed (t : Table) (e : MalformedEntry) : Prop :=
  FirstFault Family.Readable Family.FirstMalformed t.families e

namespace Hierarchy

theorem readFields_eq_error_iff {family variant : Text} {index : Nat} {entries : List Text}
    {e : MalformedEntry} :
    readFields family variant index entries = .error e ↔
      ∃ before entry after, entries = before ++ entry :: after ∧ (∀ x ∈ before, IsEntry x) ∧
        Field.parse? entry = none ∧ e = ⟨family, variant, index + before.length, entry⟩ := by
  induction entries generalizing index with
  | nil => simp [readFields]
  | cons first rest ih =>
    cases read : Field.parse? first with
    | none =>
      simp only [readFields, read, Except.error.injEq]
      constructor
      · rintro rfl
        exact ⟨[], first, rest, rfl, by simp, read, rfl⟩
      · rintro ⟨before, entry, after, split, readable, -, rfl⟩
        rcases List.cons_eq_append_iff.1 split with ⟨rfl, same⟩ | ⟨before, rfl, -⟩
        · obtain ⟨rfl, -⟩ := List.cons.inj same
          rfl
        · obtain ⟨field, found⟩ := readable first (by simp)
          simp [read] at found
    | some field =>
      have step : readFields family variant index (first :: rest) = .error e ↔
          readFields family variant (index + 1) rest = .error e := by
        cases tail : readFields family variant (index + 1) rest <;>
          simp [readFields, read, tail, Except.map]
      rw [step, ih]
      constructor
      · rintro ⟨before, entry, after, rfl, readable, unread, rfl⟩
        refine ⟨first :: before, entry, after, rfl, ?_, unread, ?_⟩
        · exact List.forall_mem_cons.2 ⟨⟨field, read⟩, readable⟩
        · rw [List.length_cons, Nat.add_right_comm, Nat.add_assoc]
      · rintro ⟨before, entry, after, split, readable, unread, rfl⟩
        rcases List.cons_eq_append_iff.1 split with ⟨rfl, same⟩ | ⟨before, rfl, tail⟩
        · obtain ⟨rfl, -⟩ := List.cons.inj same
          simp [read] at unread
        · refine ⟨before, entry, after, tail, (List.forall_mem_cons.1 readable).2, unread, ?_⟩
          rw [List.length_cons, Nat.add_right_comm, Nat.add_assoc]

/-- Reading a variant fails at its first malformed entry. -/
theorem readFields_eq_error_iff_first {base : Text} {v : Variant} {e : MalformedEntry} :
    readFields base v.name 0 v.entries = .error e ↔ v.FirstMalformed base e := by
  rw [readFields_eq_error_iff]
  constructor
  · rintro ⟨before, entry, after, split, readable, unread, rfl⟩
    exact ⟨rfl, rfl, before, after, split, by simp, readable, unread⟩
  · rintro ⟨sameFamily, sameVariant, before, after, split, length, readable, unread⟩
    refine ⟨before, e.entry, after, split, readable, unread, ?_⟩
    rw [length, ← sameFamily, ← sameVariant, Nat.zero_add]

theorem readFields_ok_iff {base : Text} {v : Variant} :
    (∃ fields, readFields base v.name 0 v.entries = .ok fields) ↔ v.Readable := by
  constructor
  · rintro ⟨fields, read⟩ entry member
    have same := readFields_eq_ok_iff.1 read
    have image : Field.parse? entry ∈ fields.map some := same ▸ List.mem_map_of_mem member
    obtain ⟨field, -, found⟩ := List.mem_map.1 image
    exact ⟨field, found.symm⟩
  · intro readable
    cases read : readFields base v.name 0 v.entries with
    | ok fields => exact ⟨fields, rfl⟩
    | error e =>
      obtain ⟨before, entry, after, split, -, unread, -⟩ := readFields_eq_error_iff.1 read
      obtain ⟨field, found⟩ := readable entry (by rw [split]; simp)
      simp [unread] at found

theorem readNodes_eq_error_iff {base : Text} {variants : List Variant} {e : MalformedEntry} :
    readNodes base variants = .error e ↔
      FirstFault Variant.Readable (Variant.FirstMalformed base) variants e := by
  induction variants with
  | nil => simp [readNodes]
  | cons v vs ih =>
    rw [firstFault_cons, ← ih, ← readFields_eq_error_iff_first, ← @readFields_ok_iff base]
    cases read : readFields base v.name 0 v.entries with
    | error e' => simp [readNodes, read]
    | ok fields => cases tail : readNodes base vs <;> simp [readNodes, read, tail, Except.map]

theorem readNodes_ok_iff {base : Text} {variants : List Variant} :
    (∃ nodes, readNodes base variants = .ok nodes) ↔ ∀ v ∈ variants, v.Readable := by
  induction variants with
  | nil => simp [readNodes]
  | cons v vs ih =>
    rw [List.forall_mem_cons, ← ih, ← @readFields_ok_iff base]
    cases read : readFields base v.name 0 v.entries with
    | error e => simp [readNodes, read]
    | ok fields => cases tail : readNodes base vs <;> simp [readNodes, read, tail, Except.map]

/-- A family gives no hierarchy exactly because of its first malformed entry. -/
theorem ofFamily_eq_error_iff {f : Family} {e : MalformedEntry} :
    ofFamily f = .error e ↔ f.FirstMalformed e := by
  rw [Family.FirstMalformed, ← readNodes_eq_error_iff]
  cases read : readNodes f.base f.variants <;> simp [ofFamily, read, Except.map]

theorem ofFamily_ok_iff {f : Family} : (∃ h, ofFamily f = .ok h) ↔ f.Readable := by
  rw [Family.Readable, ← @readNodes_ok_iff f.base]
  cases read : readNodes f.base f.variants <;> simp [ofFamily, read, Except.map]

end Hierarchy

namespace Family

/-- A family cannot be coded exactly because of its first malformed entry. -/
theorem code_eq_error_iff {f : Family} {e : MalformedEntry} :
    f.code = .error e ↔ f.FirstMalformed e := by
  rw [← Hierarchy.ofFamily_eq_error_iff]
  cases read : Hierarchy.ofFamily f <;> simp [code, read, Except.map]

theorem exists_code_iff {f : Family} : (∃ u, f.code = .ok u) ↔ f.Readable := by
  rw [← Hierarchy.ofFamily_ok_iff]
  cases read : Hierarchy.ofFamily f <;> simp [code, read, Except.map]

end Family

namespace CodeUnit

theorem push_eq_ok_iff {u v : CodeUnit} {f : Family} :
    u.push f = .ok v ↔ ∃ h, Hierarchy.ofFamily f = .ok h ∧ v = u ++ h.code := by
  cases read : Hierarchy.ofFamily f <;> simp [push, Family.code, read, Except.map, eq_comm]

theorem push_eq_error_iff {u : CodeUnit} {f : Family} {e : MalformedEntry} :
    u.push f = .error e ↔ f.FirstMalformed e := by
  rw [← Hierarchy.ofFamily_eq_error_iff]
  cases read : Hierarchy.ofFamily f <;> simp [push, Family.code, read, Except.map]

/-- The unit with the code of hierarchies, one behind the other. -/
def appendAll (u : CodeUnit) (hs : List Hierarchy) : CodeUnit where
  header := u.header ++ Text.ofLines (hs.flatMap Hierarchy.headerLines)
  source := u.source ++ Text.ofLines (hs.flatMap Hierarchy.sourceLines)

@[simp] theorem appendAll_nil (u : CodeUnit) : u.appendAll [] = u := by
  simp [appendAll]

theorem appendAll_cons (u : CodeUnit) (h : Hierarchy) (hs : List Hierarchy) :
    u.appendAll (h :: hs) = (u ++ h.code).appendAll hs := by
  simp [appendAll, Hierarchy.code]

/-- Families are all coded exactly if each gives a hierarchy, and then as those hierarchies. -/
theorem pushAll_eq_ok_iff {u v : CodeUnit} {fs : List Family} :
    u.pushAll fs = .ok v ↔
      ∃ hs, fs.map Hierarchy.ofFamily = hs.map .ok ∧ v = u.appendAll hs := by
  induction fs generalizing u with
  | nil => simp [eq_comm]
  | cons f fs ih =>
    rw [pushAll_cons]
    cases read : Hierarchy.ofFamily f with
    | error e =>
      rw [push_eq_error_iff.2 (Hierarchy.ofFamily_eq_error_iff.1 read)]
      refine iff_of_false (by simp) ?_
      rintro ⟨hs, same, -⟩
      cases hs <;> simp [read] at same
    | ok h =>
      rw [push_eq_ok_iff.2 ⟨h, read, rfl⟩]
      simp only [ih]
      constructor
      · rintro ⟨hs, same, rfl⟩
        exact ⟨h :: hs, by simp [read, same], (appendAll_cons u h hs).symm⟩
      · rintro ⟨hs, same, rfl⟩
        cases hs with
        | nil => simp at same
        | cons h' hs =>
          simp only [List.map_cons, List.cons.injEq, read, Except.ok.injEq] at same
          obtain ⟨rfl, same⟩ := same
          exact ⟨hs, same, appendAll_cons u h hs⟩

end CodeUnit

/-- Coding a table fails exactly at its first malformed entry. -/
theorem Table.code_eq_error_iff {t : Table} {stem : Text} {e : MalformedEntry} :
    t.code stem = .error e ↔ t.FirstMalformed e := by
  unfold Table.code Table.FirstMalformed
  generalize CodeUnit.start stem t.includes = u
  induction t.families generalizing u with
  | nil => simp
  | cons f fs ih =>
    rw [firstFault_cons, CodeUnit.pushAll_cons, ← @CodeUnit.push_eq_error_iff u,
      ← Hierarchy.ofFamily_ok_iff]
    cases read : Hierarchy.ofFamily f with
    | error e' =>
      rw [CodeUnit.push_eq_error_iff.2 (Hierarchy.ofFamily_eq_error_iff.1 read)]
      simp
    | ok h =>
      rw [CodeUnit.push_eq_ok_iff.2 ⟨h, read, rfl⟩]
      simp [ih]

end NodeClasses
