import Mathlib.Data.Nat.Find
import Mathlib.Logic.ExistsUnique
import NodeClasses.Proofs.Family.Scan

/-!
# Refused families

A base and variants that make no family are refused with an error. `Witnessed` says that what an
error tells is there to be seen, apart from the order of the checks. The error belongs to the first
variant that does not go with those before it, and no further variants change it:
`build_tellsFirstFault`.
-/

namespace NodeClasses
set_option autoImplicit false

/-- The name of the field that an entry is read as. -/
def Field.nameOf? (entry : Text) : Option Text := (Field.parse? entry).map Field.name

/-- What the error tells of a base and variants is so. No case tells of other families. -/
inductive SchemaError.Witnessed (base : Text) (vs : List Variant) : SchemaError → Prop where
  | emptyFamily (none : vs = []) : Witnessed base vs (.emptyFamily base)
  | invalidIdentifier {name : Text} (used : name = base ∨ name ∈ vs.map Variant.name)
      (invalid : Cpp.isIdentifier name = false) : Witnessed base vs (.invalidIdentifier base name)
  | reservedType {name : Text} (used : name = base ∨ name ∈ vs.map Variant.name)
      (reserved : name ∈ Cpp.keywords ∨ name = visitorName) :
      Witnessed base vs (.reservedWord base name)
  | reservedField {v : Variant} {entry name : Text} (variant : v ∈ vs) (member : entry ∈ v.entries)
      (read : Field.nameOf? entry = some name)
      (reserved : name ∈ Cpp.keywords ∨ name = acceptName ∨ name = visitorName ∨ name = base ∨
        name = v.name) :
      Witnessed base vs (.reservedWord base name)
  | duplicateVariant {name : Text} (twice : 2 ≤ (vs.map Variant.name).count name) :
      Witnessed base vs (.duplicateVariant base name)
  | duplicateField {v : Variant} {field : Text} (variant : v ∈ vs)
      (twice : 2 ≤ v.entries.countP fun entry => Field.nameOf? entry == some field) :
      Witnessed base vs (.duplicateField v.name field)
  | variantNamesBase (member : base ∈ vs.map Variant.name) :
      Witnessed base vs (.variantNamesBase base)

theorem Variant.fieldNames_eq (v : Variant) : v.fieldNames = v.entries.filterMap Field.nameOf? := by
  rw [fieldNames, fields, List.map_filterMap]
  rfl

theorem two_le_count_append_cons {α : Type} [BEq α] [LawfulBEq α] {a : α} {before after : List α}
    (member : a ∈ before) : 2 ≤ (before ++ a :: after).count a := by
  have first : 0 < before.count a := List.count_pos_iff.2 member
  rw [List.count_append, List.count_cons_self]
  omega

namespace Family

theorem build_eq_error_iff {base : Text} {vs : List Variant} {e : SchemaError} :
    build base vs = .error e ↔ fault? base vs = some e := by
  unfold build
  split
  · next fault => simp [fault]
  · next none => simp [none]

section Witnessed

variable {base : Text} {vs : List Variant} {e : SchemaError}

theorem witnessed_of_nameFault? {name : Text} (used : name = base ∨ name ∈ vs.map Variant.name)
    (fault : nameFault? base name = some e) : e.Witnessed base vs := by
  unfold nameFault? at fault
  split at fault
  · next invalid =>
    obtain rfl := Option.some.inj fault
    exact .invalidIdentifier used invalid
  · split at fault
    · next reserved =>
      obtain rfl := Option.some.inj fault
      exact .reservedType used reserved
    · cases fault

theorem witnessed_of_fieldFault? {v : Variant} (variant : v ∈ vs)
    (fault : fieldFault? base v.name [] v.fieldNames = some e) : e.Witnessed base vs := by
  rw [fieldFault?_eq_scan?, scan?_eq_some_iff] at fault
  obtain ⟨before, name, after, names, -, fault⟩ := fault
  rw [memberFault?, fieldFault?, fieldFault?] at fault
  split at fault
  · split at fault
    · next seen =>
      obtain rfl := Option.some.inj fault
      have earlier : name ∈ before := by simpa using seen
      have twice : 2 ≤ (before ++ name :: after).count name := two_le_count_append_cons earlier
      rw [← names, v.fieldNames_eq, List.count_filterMap] at twice
      exact .duplicateField variant twice
    · cases fault
  · next taken =>
    obtain rfl := Option.some.inj fault
    have inside : name ∈ v.entries.filterMap Field.nameOf? := by
      rw [← v.fieldNames_eq, names]
      exact List.mem_append_right before List.mem_cons_self
    obtain ⟨entry, member, read⟩ := List.mem_filterMap.1 inside
    refine .reservedField variant member read ?_
    simpa only [IsMemberName, not_and_or, ne_eq, not_not] using taken

theorem witnessed_of_variantFault? {before after : List Variant} {v : Variant}
    (fault : variantFault? base (before.map Variant.name).reverse v = some e) :
    e.Witnessed base (before ++ v :: after) := by
  have variant : v ∈ before ++ v :: after := List.mem_append_right before List.mem_cons_self
  have used : v.name ∈ (before ++ v :: after).map Variant.name := List.mem_map_of_mem variant
  simp only [variantFault?, Option.or_eq_some_iff] at fault
  rcases fault with name | ⟨-, same | ⟨-, field | ⟨-, repeated⟩⟩⟩
  · exact witnessed_of_nameFault? (.inr used) name
  · split at same
    · next namesBase =>
      obtain rfl := Option.some.inj same
      subst namesBase
      exact .variantNamesBase used
    · cases same
  · exact witnessed_of_fieldFault? variant field
  · split at repeated
    · next seen =>
      obtain rfl := Option.some.inj repeated
      have earlier : v.name ∈ before.map Variant.name := List.mem_reverse.1 seen
      refine .duplicateVariant ?_
      rw [List.map_append, List.map_cons]
      exact two_le_count_append_cons earlier
    · cases repeated

/-- What an error tells is so. -/
theorem witnessed_of_build (failed : build base vs = .error e) : e.Witnessed base vs := by
  rw [build_eq_error_iff] at failed
  simp only [fault?, Option.or_eq_some_iff] at failed
  rcases failed with name | ⟨-, empty | ⟨-, variant⟩⟩
  · exact witnessed_of_nameFault? (.inl rfl) name
  · split at empty
    · next none =>
      obtain rfl := Option.some.inj empty
      exact .emptyFamily none
    · cases empty
  · rw [variantsFault?_eq_scan?, scan?_eq_some_iff] at variant
    obtain ⟨before, v, after, rfl, -, fault⟩ := variant
    rw [List.append_nil] at fault
    exact witnessed_of_variantFault? fault

end Witnessed

/-- Variants behind others that are refused do not change the error. -/
theorem build_append_of_error {base : Text} {vs ws : List Variant} {e : SchemaError}
    (nonempty : vs ≠ []) (failed : build base vs = .error e) :
    build base (vs ++ ws) = .error e := by
  have nonempty' : vs ++ ws ≠ [] := List.append_ne_nil_of_left_ne_nil nonempty ws
  rw [build_eq_error_iff] at failed ⊢
  rw [fault?, if_neg nonempty, Option.none_or, variantsFault?_eq_scan?] at failed
  rw [fault?, if_neg nonempty', Option.none_or, variantsFault?_eq_scan?, scan?_append,
    ← Option.or_assoc, failed, Option.some_or]

/-- The error of the first variants, if there are any, is that of all. -/
theorem build_of_take_error {base : Text} {vs : List Variant} {n : Nat} {e : SchemaError}
    (nonempty : vs.take n ≠ []) (failed : build base (vs.take n) = .error e) :
    build base vs = .error e := by
  have whole : build base (vs.take n ++ vs.drop n) = .error e :=
    build_append_of_error nonempty failed
  rwa [List.take_append_drop] at whole

/-- The variants before number `i` make a family, if there are any, and together with that one they
make none. -/
structure StopsAt (base : Text) (vs : List Variant) (i : Nat) : Prop where
  inside : i < vs.length
  before : i = 0 ∨ ∃ f, build base (vs.take i) = .ok f
  stops : ¬ ∃ f, build base (vs.take (i + 1)) = .ok f

namespace StopsAt

variable {base : Text} {vs : List Variant} {e : SchemaError} {i j : Nat}

theorem take_ne_nil (h : StopsAt base vs i) : vs.take (i + 1) ≠ [] := by
  have inside := h.inside
  rw [← List.length_pos_iff, List.length_take]
  omega

theorem exists_error (h : StopsAt base vs i) : ∃ e, build base (vs.take (i + 1)) = .error e := by
  cases stopped : build base (vs.take (i + 1)) with
  | error e => exact ⟨e, rfl⟩
  | ok f => exact absurd ⟨f, stopped⟩ h.stops

/-- Where the building stops, it stops with the error of the whole. -/
theorem build_take (h : StopsAt base vs i) (failed : build base vs = .error e) :
    build base (vs.take (i + 1)) = .error e := by
  obtain ⟨e', stopped⟩ := h.exists_error
  have whole := build_of_take_error h.take_ne_nil stopped
  rw [failed] at whole
  rw [stopped, Except.error.inj whole]

/-- Nothing can be built behind the variant at which the building stops. -/
theorem le (hi : StopsAt base vs i) (hj : StopsAt base vs j) : j ≤ i := by
  by_contra behind
  obtain ⟨e, stopped⟩ := hi.exists_error
  have first : (vs.take j).take (i + 1) = vs.take (i + 1) := by
    rw [List.take_take, Nat.min_eq_left (by omega)]
  rcases hj.before with rfl | ⟨f, built⟩
  · omega
  · have failed : build base (vs.take j) = .error e :=
      build_of_take_error (first ▸ hi.take_ne_nil) (first ▸ stopped)
    rw [failed] at built
    cases built

end StopsAt

theorem exists_stopsAt {base : Text} {vs : List Variant} {e : SchemaError} (nonempty : vs ≠ [])
    (failed : build base vs = .error e) : ∃ i, StopsAt base vs i := by
  classical
  have length : 0 < vs.length := List.length_pos_iff.2 nonempty
  have last : ¬ ∃ f, build base (vs.take (vs.length - 1 + 1)) = .ok f := by
    rw [Nat.sub_add_cancel length, List.take_length, failed]
    simp
  have stops : ∃ i, ¬ ∃ f, build base (vs.take (i + 1)) = .ok f := ⟨_, last⟩
  have inside : Nat.find stops ≤ vs.length - 1 := Nat.find_min' stops last
  refine ⟨Nat.find stops, by omega, ?_, Nat.find_spec stops⟩
  rcases Nat.eq_zero_or_pos (Nat.find stops) with first | later
  · exact .inl first
  · have built := Nat.find_min stops (Nat.sub_lt later Nat.one_pos)
    rw [not_not, Nat.sub_add_cancel later] at built
    exact .inr built

/-- The error is so, it is that of the first variant that does not go with those before it, and
variants behind the refused ones do not change it. -/
structure TellsFirstFault (base : Text) (vs : List Variant) (e : SchemaError) : Prop where
  witnessed : e.Witnessed base vs
  stopsOnce : vs ≠ [] → ∃! i, StopsAt base vs i
  first : ∀ i, StopsAt base vs i → build base (vs.take (i + 1)) = .error e
  /-- What it tells can be seen without the variants behind that one. -/
  seen : ∀ i, StopsAt base vs i → e.Witnessed base (vs.take (i + 1))
  stable : vs ≠ [] → ∀ ws, build base (vs ++ ws) = .error e

/-- **What a refusal tells.** The error of variants that are refused tells the first fault. -/
theorem build_tellsFirstFault {base : Text} {vs : List Variant} {e : SchemaError}
    (failed : build base vs = .error e) : TellsFirstFault base vs e := by
  constructor
  case witnessed => exact witnessed_of_build failed
  case stopsOnce =>
    intro nonempty
    obtain ⟨i, stops⟩ := exists_stopsAt nonempty failed
    refine ⟨i, stops, ?_⟩
    intro j other
    exact Nat.le_antisymm (stops.le other) (other.le stops)
  case first =>
    intro i stops
    exact stops.build_take failed
  case seen =>
    intro i stops
    exact witnessed_of_build (stops.build_take failed)
  case stable =>
    intro nonempty ws
    exact build_append_of_error nonempty failed

/-- Variants with several faults. The first is that of the second variant, which repeats a field. -/
def faulty : List Variant :=
  [⟨"Leaf", ["???", "Token value"]⟩, ⟨"Pair", ["int first", "Token *first", "int class"]⟩,
    ⟨"Leaf", []⟩, ⟨"Visitor", []⟩]

theorem build_tellsFirstFault_faulty :
    build "Expr" faulty = .error (.duplicateField "Pair" "first") ∧
      TellsFirstFault "Expr" faulty (.duplicateField "Pair" "first") := by
  have failed : build "Expr" faulty = .error (.duplicateField "Pair" "first") := by
    rw [build_eq_error_iff]
    decide +kernel
  exact ⟨failed, build_tellsFirstFault failed⟩

end Family

end NodeClasses
