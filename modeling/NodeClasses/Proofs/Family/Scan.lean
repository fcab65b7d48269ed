import NodeClasses.Family.Clash

/-!
# Scans for the first fault

Variants, the fields of a variant and the types of a unit are checked alike: an element is judged
by what was noted of the elements before it, and the first fault ends the scan. `scan?` is that
scan for any judgement, and the three checks are cases of it. `scan?_eq_some_iff` says which fault
is told, and `scan?_append` that a fault stays the same whatever comes behind it.
-/

namespace NodeClasses.Family
set_option autoImplicit false

section Scan

variable {α κ ε : Type} {fault : List κ → α → Option ε} {note : α → κ}

/-- The first fault in a list. An element is judged by the notes on those before it, the nearest
first, where those in `seen` were there at the start. -/
def scan? (fault : List κ → α → Option ε) (note : α → κ) : List κ → List α → Option ε
  | _, [] => none
  | seen, x :: xs => (fault seen x).or (scan? fault note (note x :: seen) xs)

/-- A second list is scanned with the notes on the first, unless that has a fault. -/
theorem scan?_append {seen : List κ} {xs ys : List α} :
    scan? fault note seen (xs ++ ys) =
      (scan? fault note seen xs).or (scan? fault note ((xs.map note).reverse ++ seen) ys) := by
  induction xs generalizing seen with
  | nil => rfl
  | cons x xs ih => simp [scan?, ih, Option.or_assoc]

/-- The fault is that of the first element that has one. -/
theorem scan?_eq_some_iff {seen : List κ} {xs : List α} {e : ε} :
    scan? fault note seen xs = some e ↔
      ∃ before x after, xs = before ++ x :: after ∧ scan? fault note seen before = none ∧
        fault ((before.map note).reverse ++ seen) x = some e := by
  constructor
  · intro found
    induction xs generalizing seen with
    | nil => cases found
    | cons x xs ih =>
      rw [scan?, Option.or_eq_some_iff] at found
      rcases found with here | ⟨good, later⟩
      · exact ⟨[], x, xs, rfl, rfl, here⟩
      · obtain ⟨before, y, after, rfl, clear, fault⟩ := ih later
        refine ⟨x :: before, y, after, rfl, ?_, ?_⟩
        · rw [scan?, good, clear]
          rfl
        · simpa using fault
  · rintro ⟨before, x, after, rfl, clear, here⟩
    rw [scan?_append, clear, scan?, here]
    rfl

end Scan

/-- The fault of a field name, where those in `seen` are taken. -/
def memberFault? (base variant : Text) (seen : List Text) (name : Text) : Option SchemaError :=
  fieldFault? base variant seen [name]

theorem fieldFault?_eq_scan? (base variant : Text) (seen names : List Text) :
    fieldFault? base variant seen names = scan? (memberFault? base variant) id seen names := by
  induction names generalizing seen with
  | nil => rfl
  | cons name names ih =>
    rw [scan?, memberFault?, fieldFault?, fieldFault?, fieldFault?, ← ih]
    split
    · split <;> rfl
    · rfl

theorem variantsFault?_eq_scan? (base : Text) (seen : List Text) (vs : List Variant) :
    variantsFault? base seen vs = scan? (variantFault? base) Variant.name seen vs := by
  induction vs generalizing seen with
  | nil => rfl
  | cons v vs ih => rw [variantsFault?, scan?, ih]

/-- The clash of a declaration with one of those in `earlier`. -/
def declarationClash? (earlier : List (Text × Text)) (d : Text × Text) : Option SchemaError :=
  (earlier.lookup d.1).map fun first => .clashAcrossFamilies d.1 first d.2

theorem clashAfter?_eq_scan? (earlier rest : List (Text × Text)) :
    clashAfter? earlier rest = scan? declarationClash? id earlier rest := by
  induction rest generalizing earlier with
  | nil => rfl
  | cons d rest ih =>
    obtain ⟨name, owner⟩ := d
    rw [clashAfter?, scan?, declarationClash?]
    cases earlier.lookup name with
    | none => exact ih _
    | some first => rfl

end NodeClasses.Family
