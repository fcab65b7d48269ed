import NodeClasses.Proofs.Family.Acceptance
import NodeClasses.Proofs.Hierarchy.Malformed

/-!
# The place of the first malformed entry

The entries of a family stand at places: the number of a variant, and the number of an entry in it.
Places are ordered by variants and then by entries. `code_fails_iff_unread` says that a family
cannot be coded exactly if one of its entries cannot be read, and that the entry at the first such
place is told, which is found again by what is told of it.
-/

namespace NodeClasses
set_option autoImplicit false

section Split

variable {α ε : Type} {good : α → Prop} {fault : α → ε → Prop} {xs : List α}

/-- Cutting a list in front of an element is to tell the element's position. -/
theorem exists_split_iff {x : α} {i : Nat} :
    (∃ before after, xs = before ++ x :: after ∧ before.length = i ∧ ∀ y ∈ before, good y) ↔
      xs[i]? = some x ∧ ∀ j < i, ∀ y, xs[j]? = some y → good y := by
  constructor
  · rintro ⟨before, after, rfl, rfl, others⟩
    refine ⟨by simp, ?_⟩
    intro j less y here
    apply others
    rw [List.getElem?_append_left less] at here
    exact List.mem_of_getElem? here
  · rintro ⟨here, others⟩
    obtain ⟨inside, rfl⟩ := List.getElem?_eq_some_iff.1 here
    refine ⟨xs.take i, xs.drop (i + 1), ?_, List.length_take_of_le (Nat.le_of_lt inside), ?_⟩
    · rw [← List.drop_eq_getElem_cons inside, List.take_append_drop]
    · intro y member
      obtain ⟨j, at_j⟩ := List.mem_iff_getElem?.1 member
      rw [List.getElem?_take] at at_j
      split at at_j
      · next less => exact others j less y at_j
      · cases at_j

theorem firstFault_iff_position {e : ε} :
    FirstFault good fault xs e ↔
      ∃ (i : Nat) (x : α), xs[i]? = some x ∧ (∀ j < i, ∀ y, xs[j]? = some y → good y) ∧
        fault x e := by
  constructor
  · rintro ⟨before, x, after, split, others, found⟩
    obtain ⟨here, earlier⟩ := exists_split_iff.1 ⟨before, after, split, rfl, others⟩
    exact ⟨before.length, x, here, earlier, found⟩
  · rintro ⟨i, x, here, earlier, found⟩
    obtain ⟨before, after, split, -, others⟩ := exists_split_iff.2 ⟨here, earlier⟩
    exact ⟨before, x, after, split, others, found⟩

end Split

theorem firstUnread_iff_position {entries : List Text} {i : Nat} {entry : Text} :
    FirstUnread entries i entry ↔
      entries[i]? = some entry ∧ (∀ j < i, ∀ y, entries[j]? = some y → IsEntry y) ∧
        Field.parse? entry = none := by
  constructor
  · rintro ⟨before, after, split, length, readable, unread⟩
    obtain ⟨here, earlier⟩ := exists_split_iff.1 ⟨before, after, split, length, readable⟩
    exact ⟨here, earlier, unread⟩
  · rintro ⟨here, earlier, unread⟩
    obtain ⟨before, after, split, length, readable⟩ := exists_split_iff.2 ⟨here, earlier⟩
    exact ⟨before, after, split, length, readable, unread⟩

theorem isEntry_iff {entry : Text} : IsEntry entry ↔ Field.parse? entry ≠ none :=
  Option.ne_none_iff_exists'.symm

theorem Variant.readable_iff_position {v : Variant} :
    v.Readable ↔ ∀ (i : Nat) entry, v.entries[i]? = some entry → IsEntry entry := by
  constructor
  · intro readable i entry here
    exact readable entry (List.mem_of_getElem? here)
  · intro readable entry member
    obtain ⟨i, here⟩ := List.mem_iff_getElem?.1 member
    exact readable i entry here

namespace Family

/-- The entry at a place: the number of a variant, and the number of an entry in it. -/
def entryAt? (f : Family) (place : Nat × Nat) : Option Text :=
  f.variants[place.1]?.bind fun v => v.entries[place.2]?

/-- Every entry at a place before the given one can be read. -/
def ReadableBefore (f : Family) (place : Nat × Nat) : Prop :=
  ∀ earlier entry, Prod.Lex (· < ·) (· < ·) earlier place → f.entryAt? earlier = some entry →
    IsEntry entry

theorem readableBefore_iff {f : Family} {k i : Nat} {v : Variant}
    (variant : f.variants[k]? = some v) :
    f.ReadableBefore (k, i) ↔
      (∀ l < k, ∀ w, f.variants[l]? = some w → w.Readable) ∧
        ∀ j < i, ∀ entry, v.entries[j]? = some entry → IsEntry entry := by
  constructor
  · intro readable
    constructor
    · intro l less w other
      rw [Variant.readable_iff_position]
      intro j entry here
      exact readable (l, j) entry (.left _ _ less) (by simp [entryAt?, other, here])
    · intro j less entry here
      exact readable (k, j) entry (.right _ less) (by simp [entryAt?, variant, here])
  · rintro ⟨variants, entries⟩ ⟨l, j⟩ entry order here
    obtain ⟨w, other, here⟩ := Option.bind_eq_some_iff.1 here
    cases order with
    | left _ _ less => exact Variant.readable_iff_position.1 (variants l less w other) j entry here
    | right _ less =>
      obtain rfl := Option.some.inj (variant.symm.trans other)
      exact entries j less entry here

/-- What is told of the entry at the first place where one cannot be read. -/
structure TellsFirstUnread (f : Family) (e : MalformedEntry) : Prop where
  family : e.family = f.base
  unread : Field.parse? e.entry = none
  place : ∃ k v, f.variants[k]? = some v ∧ e.variant = v.name ∧
    f.entryAt? (k, e.index) = some e.entry ∧ f.ReadableBefore (k, e.index)
  /-- The variant is found by the name that is told, and the entry in it by the index. -/
  found : ∃ v, f.variant? e.variant = some v ∧ v.entries[e.index]? = some e.entry

theorem firstMalformed_iff_tells {f : Family} {e : MalformedEntry} :
    f.FirstMalformed e ↔ f.TellsFirstUnread e := by
  rw [FirstMalformed, firstFault_iff_position]
  constructor
  · rintro ⟨k, v, variant, readable, family, name, first⟩
    obtain ⟨here, entries, unread⟩ := firstUnread_iff_position.1 first
    have lookup : f.variant? e.variant = some v :=
      variant?_eq_some_iff.2 ⟨List.mem_of_getElem? variant, name.symm⟩
    have place : f.entryAt? (k, e.index) = some e.entry := by
      rw [entryAt?, variant]
      exact here
    have before : f.ReadableBefore (k, e.index) :=
      (readableBefore_iff variant).2 ⟨readable, entries⟩
    exact ⟨family, unread, ⟨k, v, variant, name, place, before⟩, v, lookup, here⟩
  · rintro ⟨family, unread, ⟨k, v, variant, name, here, before⟩, -⟩
    obtain ⟨readable, entries⟩ := (readableBefore_iff variant).1 before
    rw [entryAt?, variant] at here
    exact ⟨k, v, variant, readable, family, name,
      firstUnread_iff_position.2 ⟨here, entries, unread⟩⟩

theorem exists_error_iff {f : Family} :
    (∃ e, f.code = .error e) ↔
      ∃ v ∈ f.variants, ∃ entry ∈ v.entries, Field.parse? entry = none := by
  have refused : (∃ e, f.code = .error e) ↔ ¬ ∃ u, f.code = .ok u := by
    cases f.code <;> simp
  rw [refused, exists_code_iff]
  simp [Readable, Variant.Readable, isEntry_iff]

/-- **Where coding fails.** A family cannot be coded exactly if one of its entries cannot be read,
and exactly the entry at the first such place is told. -/
theorem code_fails_iff_unread (f : Family) :
    ((∃ e, f.code = .error e) ↔
        ∃ v ∈ f.variants, ∃ entry ∈ v.entries, Field.parse? entry = none) ∧
      ∀ e, f.code = .error e ↔ f.TellsFirstUnread e := by
  refine ⟨exists_error_iff, ?_⟩
  intro e
  rw [code_eq_error_iff, firstMalformed_iff_tells]

/-- A family with entries that cannot be read in its second and in its third variant. -/
def unreadable : Family :=
  ⟨"Expr", [⟨"Literal", ["std::any value"]⟩,
    ⟨"Unary", ["Token op", "std::unique_ptr<Expr>", "???"]⟩, ⟨"Nil", ["const Token"]⟩],
    by decide +kernel⟩

theorem code_fails_iff_unread_unreadable :
    unreadable.code = .error ⟨"Expr", "Unary", 1, "std::unique_ptr<Expr>"⟩ ∧
      unreadable.TellsFirstUnread ⟨"Expr", "Unary", 1, "std::unique_ptr<Expr>"⟩ := by
  have failed : unreadable.code = .error ⟨"Expr", "Unary", 1, "std::unique_ptr<Expr>"⟩ := by
    decide +kernel
  exact ⟨failed, ((code_fails_iff_unread unreadable).2 _).1 failed⟩

end Family

end NodeClasses
