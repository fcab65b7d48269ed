import Mathlib.Data.List.Nodup
import NodeClasses.Proofs.Family.Scan

/-!
# The first type that is declared twice

Families of one unit are scanned with the types declared so far in hand. `clash?_iff_firstRepeat`
says what the scan comes to: it finds something exactly if a type name is repeated among all that
the families declare, and it tells the first repeated name with the two families. As a family does
not repeat a name, these are two elements of the list, even where they are the same family.
-/

namespace NodeClasses.Family
set_option autoImplicit false

/-- The first repeated name is the one at position `j`, and it stands at `i` before that. -/
structure FirstRepeat (names : List Text) (i j : Nat) (name : Text) : Prop where
  again : names[j]? = some name
  earlier : ∀ k, k < j ∧ names[k]? = some name ↔ k = i
  /-- No name at a smaller position stands before that. -/
  least : ∀ k < j, ∀ h < k, names[h]? ≠ names[k]?

theorem firstRepeat_append {before after : List Text} {i : Nat} {name : Text}
    (nodup : before.Nodup) (earlier : before[i]? = some name) :
    FirstRepeat (before ++ name :: after) i before.length name := by
  have inside {k : Nat} (h : k < before.length) :
      (before ++ name :: after)[k]? = before[k]? := List.getElem?_append_left h
  constructor
  case again => simp
  case earlier =>
    intro k
    constructor
    · rintro ⟨less, same⟩
      rw [inside less, ← earlier] at same
      exact (List.getElem?_inj less nodup).1 same
    · rintro rfl
      have less : k < before.length := (List.getElem?_eq_some_iff.1 earlier).1
      exact ⟨less, (inside less).trans earlier⟩
  case least =>
    intro k less h smaller same
    have less' : h < before.length := Nat.lt_trans smaller less
    rw [inside less, inside less'] at same
    exact Nat.ne_of_lt smaller ((List.getElem?_inj less' nodup).1 same)

namespace FirstRepeat

variable {names : List Text} {i j i' j' : Nat} {name name' : Text}

theorem lt (h : FirstRepeat names i j name) : i < j := ((h.earlier i).2 rfl).1

theorem getElem?_earlier (h : FirstRepeat names i j name) : names[i]? = some name :=
  ((h.earlier i).2 rfl).2

theorem not_nodup (h : FirstRepeat names i j name) : ¬ names.Nodup := by
  intro nodup
  have inside : i < names.length := (List.getElem?_eq_some_iff.1 h.getElem?_earlier).1
  have same : names[i]? = names[j]? := h.getElem?_earlier.trans h.again.symm
  exact Nat.ne_of_lt h.lt ((List.getElem?_inj inside nodup).1 same)

theorem le (h : FirstRepeat names i j name) (h' : FirstRepeat names i' j' name') : j' ≤ j := by
  by_contra less
  exact h'.least j (Nat.lt_of_not_le less) i h.lt (h.getElem?_earlier.trans h.again.symm)

/-- There is one first repeated name. -/
theorem unique (h : FirstRepeat names i j name) (h' : FirstRepeat names i' j' name') :
    i = i' ∧ j = j' ∧ name = name' := by
  obtain rfl : j = j' := Nat.le_antisymm (h'.le h) (h.le h')
  obtain rfl : name = name' := Option.some.inj (h.again.symm.trans h'.again)
  exact ⟨(h'.earlier i).1 ⟨h.lt, h.getElem?_earlier⟩, rfl, rfl⟩

end FirstRepeat

/-- The owners of the declared type names: for each name the family that declares it, with the
number of that family in the list. -/
def owners (fs : List Family) : List (Family × Nat) :=
  fs.zipIdx.flatMap fun owner => owner.1.typeNames.map fun _ => owner

/-- The declared type names with their owners. -/
def owned (fs : List Family) : List (Text × Family × Nat) :=
  fs.zipIdx.flatMap fun owner => owner.1.typeNames.map fun name => (name, owner)

theorem names_owned (fs : List Family) : (owned fs).map Prod.fst = fs.flatMap typeNames := by
  have families : fs.flatMap typeNames = (fs.zipIdx.map Prod.fst).flatMap typeNames := by
    rw [List.zipIdx_map_fst]
  rw [families, List.flatMap_map, owned, List.map_flatMap]
  simp [Function.comp_def]

theorem owners_owned (fs : List Family) : (owned fs).map Prod.snd = owners fs := by
  simp [owned, owners, List.map_flatMap, Function.comp_def]

theorem declarations_owned (fs : List Family) :
    (owned fs).map (fun d => (d.1, d.2.1.base)) = declarations fs := by
  have families : declarations fs = declarations (fs.zipIdx.map Prod.fst) := by
    rw [List.zipIdx_map_fst]
  rw [families, declarations, List.flatMap_map, owned, List.map_flatMap]
  simp [Function.comp_def]

/-- An owner stands in the list under its number. -/
theorem getElem?_of_mem_owned {fs : List Family} {d : Text × Family × Nat} (h : d ∈ owned fs) :
    fs[d.2.2]? = some d.2.1 := by
  obtain ⟨owner, member, inside⟩ := List.mem_flatMap.1 h
  obtain ⟨name, -, rfl⟩ := List.mem_map.1 inside
  exact List.mk_mem_zipIdx_iff_getElem?.1 member

/-- An element of the list declares a name once. -/
theorem nodup_owned (fs : List Family) : (owned fs).Nodup := by
  rw [owned, List.nodup_flatMap]
  constructor
  · intro owner _
    apply owner.1.typeNames_nodup.map
    intro name name' same
    exact (Prod.mk.inj same).1
  · have numbers : (fs.zipIdx.map Prod.snd).Nodup := by
      rw [List.zipIdx_map_snd]
      exact List.nodup_range'
    apply (List.pairwise_map.1 numbers).imp
    intro first second apart d inFirst inSecond
    obtain ⟨_, -, rfl⟩ := List.mem_map.1 inFirst
    obtain ⟨_, -, same⟩ := List.mem_map.1 inSecond
    exact apart (congrArg (fun d => d.2.2) same).symm

/-- The name at position `j` is the first that is declared again, the first time is at `i`, and
two different elements of the list are its owners. -/
structure FirstClash (fs : List Family) (name : Text) (i j : Nat) (former latter : Family × Nat) :
    Prop where
  repeated : FirstRepeat (fs.flatMap typeNames) i j name
  first : (owners fs)[i]? = some former
  second : (owners fs)[j]? = some latter
  apart : former.2 ≠ latter.2

/-- A clash is found behind declarations that repeat no name, one of them of the same name. -/
theorem exists_split_of_clash? {fs : List Family} {e : SchemaError} (found : clash? fs = some e) :
    ∃ name before after former latter, owned fs = before ++ (name, latter) :: after ∧
      (before.map Prod.fst).Nodup ∧ (name, former) ∈ before ∧
        e = .clashAcrossFamilies name former.1.base latter.1.base := by
  rw [clash?, clashAfter?_eq_scan?, scan?_eq_some_iff] at found
  obtain ⟨_, _, _, split, clear, clash⟩ := found
  rw [← declarations_owned, List.map_eq_append_iff] at split
  obtain ⟨before, rest, split, rfl, rest_eq⟩ := split
  obtain ⟨⟨name, latter⟩, after, rfl, rfl, rfl⟩ := List.map_eq_cons_iff.1 rest_eq
  rw [← clashAfter?_eq_scan?, clashAfter?_eq_none_iff, List.map_map] at clear
  rw [List.map_id, List.append_nil, declarationClash?, Option.map_eq_some_iff] at clash
  obtain ⟨base, noted, rfl⟩ := clash
  obtain ⟨_, _, notes, -⟩ := List.lookup_eq_some_iff.1 noted
  have member : (name, base) ∈ before.map fun d => (d.1, d.2.1.base) := by
    rw [← List.mem_reverse, notes]
    exact List.mem_append_right _ List.mem_cons_self
  obtain ⟨⟨name', former⟩, inside, same⟩ := List.mem_map.1 member
  obtain ⟨rfl, rfl⟩ := Prod.mk.inj same
  exact ⟨name', before, after, former, latter, split, clear.1, inside, rfl⟩

theorem firstClash_of_split {fs : List Family} {name : Text} {i : Nat}
    {former latter : Family × Nat} {before after : List (Text × Family × Nat)}
    (split : owned fs = before ++ (name, latter) :: after)
    (nodup : (before.map Prod.fst).Nodup) (earlier : before[i]? = some (name, former)) :
    FirstClash fs name i before.length former latter := by
  constructor
  case repeated =>
    rw [← names_owned, split, List.map_append, List.map_cons, ← List.length_map Prod.fst]
    exact firstRepeat_append nodup (by rw [List.getElem?_map, earlier]; rfl)
  case first =>
    have less : i < before.length := (List.getElem?_eq_some_iff.1 earlier).1
    rw [← owners_owned, split, List.getElem?_map, List.getElem?_append_left less, earlier]
    rfl
  case second =>
    rw [← owners_owned, split, List.getElem?_map, List.getElem?_append_right (Nat.le_refl _),
      Nat.sub_self]
    rfl
  case apart =>
    intro number
    have members : ∀ d ∈ before ++ (name, latter) :: after, fs[d.2.2]? = some d.2.1 := by
      intro d member
      rw [← split] at member
      exact getElem?_of_mem_owned member
    have inside : (name, former) ∈ before := List.mem_of_getElem? earlier
    have here := members (name, former) (List.mem_append_left _ inside)
    have there := members (name, latter) (List.mem_append_right _ List.mem_cons_self)
    rw [number, there] at here
    obtain rfl : latter = former := Prod.ext (Option.some.inj here) number.symm
    have once : (before ++ (name, latter) :: after).Nodup := split ▸ nodup_owned fs
    have absent := (List.nodup_cons.1 (List.nodup_middle.1 once)).1
    exact absent (List.mem_append_left _ inside)

theorem exists_firstClash {fs : List Family} {e : SchemaError} (found : clash? fs = some e) :
    ∃ name i j former latter, FirstClash fs name i j former latter ∧
      e = .clashAcrossFamilies name former.1.base latter.1.base := by
  obtain ⟨name, before, after, former, latter, split, nodup, inside, told⟩ :=
    exists_split_of_clash? found
  obtain ⟨i, earlier⟩ := List.mem_iff_getElem?.1 inside
  exact ⟨name, i, before.length, former, latter, firstClash_of_split split nodup earlier, told⟩

/-- The scan finds the first clash, as there is only one. -/
theorem FirstClash.clash?_eq {fs : List Family} {name : Text} {i j : Nat}
    {former latter : Family × Nat} (clash : FirstClash fs name i j former latter) :
    clash? fs = some (.clashAcrossFamilies name former.1.base latter.1.base) := by
  cases found : clash? fs with
  | none => exact absurd (clash?_eq_none_iff.1 found) clash.repeated.not_nodup
  | some e =>
    obtain ⟨name', i', j', former', latter', clash', rfl⟩ := exists_firstClash found
    obtain ⟨rfl, rfl, rfl⟩ := clash.repeated.unique clash'.repeated
    obtain rfl : former = former' := Option.some.inj (clash.first.symm.trans clash'.first)
    obtain rfl : latter = latter' := Option.some.inj (clash.second.symm.trans clash'.second)
    rfl

/-- **What is shared.** Families can share a unit exactly if no type name is repeated, in whatever
order they come. Otherwise the clash is told of the first repeated name and its two owners. -/
theorem clash?_iff_firstRepeat (fs : List Family) :
    (clash? fs = none ↔ (fs.flatMap typeNames).Nodup) ∧
      (∀ gs, gs.Perm fs → (clash? gs = none ↔ clash? fs = none)) ∧
        ∀ e, clash? fs = some e ↔
          ∃ name i j former latter, FirstClash fs name i j former latter ∧
            e = .clashAcrossFamilies name former.1.base latter.1.base := by
  refine ⟨clash?_eq_none_iff, ?_, ?_⟩
  · intro gs order
    rw [clash?_eq_none_iff, clash?_eq_none_iff]
    exact (order.flatMap_right typeNames).nodup_iff
  · intro e
    constructor
    · exact exists_firstClash
    · rintro ⟨name, i, j, former, latter, clash, rfl⟩
      exact clash.clash?_eq

/-- A family that is given twice, with another one between. -/
def twice : List Family :=
  let literals : Family :=
    ⟨"Expr", [⟨"Literal", ["std::any value"]⟩, ⟨"Nil", []⟩], by decide +kernel⟩
  [literals, ⟨"Stmt", [⟨"Return", ["Token keyword", "Expr *value"]⟩], by decide +kernel⟩, literals]

theorem clash?_iff_firstRepeat_twice :
    clash? twice = some (.clashAcrossFamilies "Expr" "Expr" "Expr") ∧
      ∃ i j former latter, FirstClash twice "Expr" i j former latter := by
  have found : clash? twice = some (.clashAcrossFamilies "Expr" "Expr" "Expr") := by decide +kernel
  obtain ⟨name, i, j, former, latter, clash, told⟩ := ((clash?_iff_firstRepeat twice).2.2 _).1 found
  obtain ⟨rfl, -, -⟩ := SchemaError.clashAcrossFamilies.inj told
  exact ⟨found, i, j, former, latter, clash⟩

end NodeClasses.Family
