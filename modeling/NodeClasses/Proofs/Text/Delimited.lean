import NodeClasses.Text.Basic

/-!
# Writing that tells where it ends

Some things are written so that what is written tells where it ends, whatever comes behind it.
Such writings can be put one behind the other and taken apart again. The lines of a text are
recovered from it if none of them is broken: `ofLines_inj`.
-/

namespace NodeClasses.Text
set_option autoImplicit false

/-- Two of these things written with anything behind them are the same only if the things are, and
what is behind them. -/
def Delimited {α β : Type} (allowed : α → Prop) (write : α → List β) : Prop :=
  ∀ ⦃x y : α⦄, allowed x → allowed y → ∀ r s : List β, write x ++ r = write y ++ s → x = y ∧ r = s

section Delimited

variable {α β : Type} {allowed : α → Prop} {write : α → List β}

/-- Equally many things written one behind the other are recovered. -/
theorem Delimited.flatMap_append (delimited : Delimited allowed write) {xs ys : List α}
    (length : xs.length = ys.length) (hx : ∀ x ∈ xs, allowed x) (hy : ∀ y ∈ ys, allowed y)
    {r s : List β} (same : xs.flatMap write ++ r = ys.flatMap write ++ s) : xs = ys ∧ r = s := by
  induction xs generalizing ys with
  | nil =>
    obtain rfl := List.eq_nil_of_length_eq_zero length.symm
    exact ⟨rfl, by simpa using same⟩
  | cons x xs ih =>
    cases ys with
    | nil => simp at length
    | cons y ys =>
      simp only [List.flatMap_cons, List.append_assoc] at same
      rw [List.forall_mem_cons] at hx hy
      obtain ⟨rfl, rest⟩ := delimited hx.1 hy.1 _ _ same
      obtain ⟨rfl, behind⟩ := ih (Nat.succ.inj length) hx.2 hy.2 rest
      exact ⟨rfl, behind⟩

/-- Things written up to the end are recovered, and so is their number. -/
theorem Delimited.flatMap_inj (delimited : Delimited allowed write)
    (nonempty : ∀ x, write x ≠ []) {xs ys : List α} (hx : ∀ x ∈ xs, allowed x)
    (hy : ∀ y ∈ ys, allowed y) (same : xs.flatMap write = ys.flatMap write) : xs = ys := by
  induction xs generalizing ys with
  | nil =>
    cases ys with
    | nil => rfl
    | cons y ys => simp [nonempty] at same
  | cons x xs ih =>
    cases ys with
    | nil => simp [nonempty] at same
    | cons y ys =>
      simp only [List.flatMap_cons] at same
      rw [List.forall_mem_cons] at hx hy
      obtain ⟨rfl, rest⟩ := delimited hx.1 hy.1 _ _ same
      rw [ih hx.2 hy.2 rest]

/-- Things written as one element each are ended by an element that none of them is written as. -/
theorem delimited_block {write : α → β} {stop : β}
    (inj : ∀ x y, allowed x → allowed y → write x = write y → x = y)
    (apart : ∀ x, allowed x → write x ≠ stop) :
    Delimited (fun xs : List α => ∀ x ∈ xs, allowed x) fun xs => xs.map write ++ [stop] := by
  intro xs
  induction xs with
  | nil =>
    intro ys hx hy r s same
    cases ys with
    | nil => exact ⟨rfl, List.tail_eq_of_cons_eq same⟩
    | cons y ys => exact absurd (List.head_eq_of_cons_eq same).symm (apart y (hy y (by simp)))
  | cons x xs ih =>
    intro ys hx hy r s same
    cases ys with
    | nil => exact absurd (List.head_eq_of_cons_eq same) (apart x (hx x (by simp)))
    | cons y ys =>
      rw [List.forall_mem_cons] at hx hy
      obtain ⟨first, rest⟩ := List.cons.inj same
      obtain rfl := inj x y hx.1 hy.1 first
      obtain ⟨rfl, behind⟩ := ih hx.2 hy.2 r s rest
      exact ⟨rfl, behind⟩

end Delimited

/-- A text with a character behind it that it does not have tells where it ends. -/
theorem delimited_ended (mark : Char) :
    Delimited (fun t : Text => mark ∉ t) fun t => t ++ [mark] := by
  have block : Delimited (fun t : Text => ∀ c ∈ t, c ≠ mark) fun t => t.map id ++ [mark] :=
    delimited_block (fun _ _ _ _ same => same) fun _ other => other
  intro t u ht hu r s same
  have without {t : Text} (h : mark ∉ t) : ∀ c ∈ t, c ≠ mark := by
    rintro c member rfl
    exact h member
  exact block (without ht) (without hu) r s (by simpa using same)

/-- Texts without a mark are the same if they stand before the first mark of a text. -/
theorem isPrefix_marked_iff {mark : Char} {t u : Text} (ht : mark ∉ t) (hu : mark ∉ u)
    (rest : Text) : t ++ [mark] <+: u ++ mark :: rest ↔ t = u := by
  constructor
  · rintro ⟨behind, same⟩
    rw [List.append_cons u] at same
    exact (delimited_ended mark ht hu _ _ same).1
  · rintro rfl
    exact ⟨rest, by simp⟩

/-- Where a stem has a mark, what stands before its first mark is in the stem alone. -/
theorem isPrefix_ended_iff {mark : Char} {t stem ending : Text} (ht : mark ∉ t)
    (inEnding : mark ∉ ending) (rest : Text) :
    t ++ [mark] <+: stem ++ (ending ++ mark :: rest) ↔
      t = stem ++ ending ∨ t ++ [mark] <+: stem := by
  by_cases marked : mark ∈ stem
  case pos =>
    obtain ⟨first, others, rfl, bare⟩ := List.eq_append_cons_of_mem marked
    have ne : t ≠ (first ++ mark :: others) ++ ending := by
      rintro rfl
      simp at ht
    rw [List.append_assoc, List.cons_append, isPrefix_marked_iff ht bare,
      isPrefix_marked_iff ht bare, or_iff_right ne]
  case neg =>
    have outside : ¬ t ++ [mark] <+: stem := fun before => marked (before.subset (by simp))
    rw [← List.append_assoc, isPrefix_marked_iff ht (by simp [marked, inEnding]),
      or_iff_left outside]

/-- What stands on the two sides of a separator is cut on its own. -/
theorem pieces_append {p : Char → Bool} {c : Char} (separates : p c = true) (before rest : Text) :
    pieces p (before ++ c :: rest) = pieces p before ++ pieces p rest := by
  induction before with
  | nil => exact pieces_separator rest separates
  | cons d before ih =>
    cases h : p d with
    | true =>
      rw [List.cons_append, pieces_separator _ h, pieces_separator _ h, ih, List.cons_append]
    | false =>
      obtain ⟨piece, more, cut⟩ := List.exists_cons_of_ne_nil (pieces_ne_nil p before)
      rw [cut, List.cons_append] at ih
      rw [List.cons_append, pieces_cons h ih, pieces_cons h cut, List.cons_append]

/-- Without separators there is one piece. -/
theorem pieces_eq_singleton {p : Char → Bool} {t : Text} (whole : ∀ c ∈ t, p c = false) :
    pieces p t = [t] := by
  induction t with
  | nil => rfl
  | cons c t ih =>
    rw [List.forall_mem_cons] at whole
    exact pieces_cons whole.1 (ih whole.2)

theorem pieces_of_notMem {mark : Char} {t : Text} (outside : mark ∉ t) :
    pieces (· == mark) t = [t] := by
  apply pieces_eq_singleton
  intro c member
  rw [beq_eq_false_iff_ne]
  rintro rfl
  exact outside member

/-- The first line is the piece in front of its end. -/
theorem pieces_line {l : Text} (unbroken : '\n' ∉ l) (rest : Text) :
    pieces (· == '\n') (l ++ '\n' :: rest) = l :: pieces (· == '\n') rest := by
  rw [pieces_append rfl, pieces_of_notMem unbroken, List.singleton_append]

/-- No piece has a separator in it. -/
theorem separates_of_mem_pieces {p : Char → Bool} {t piece : Text} (found : piece ∈ pieces p t) :
    ∀ c ∈ piece, p c = false := by
  induction t generalizing piece with
  | nil =>
    rw [pieces, List.mem_singleton] at found
    simp [found]
  | cons d t ih =>
    cases separates : p d with
    | true =>
      rw [pieces_separator t separates] at found
      rcases List.mem_cons.1 found with rfl | later
      · simp
      · exact ih later
    | false =>
      obtain ⟨first, more, cut⟩ := List.exists_cons_of_ne_nil (pieces_ne_nil p t)
      rw [pieces_cons separates cut] at found
      rcases List.mem_cons.1 found with rfl | later
      · have inside : ∀ c ∈ first, p c = false := ih (cut ▸ List.mem_cons_self)
        exact List.forall_mem_cons.2 ⟨separates, inside⟩
      · exact ih (cut ▸ List.mem_cons_of_mem _ later)

/-- Parts without the separator are cut again where they are joined. -/
theorem pieces_intercalate {mark : Char} {parts : List Text} (some : parts ≠ [])
    (outside : ∀ part ∈ parts, mark ∉ part) :
    pieces (· == mark) (List.intercalate [mark] parts) = parts := by
  induction parts with
  | nil => exact absurd rfl some
  | cons part parts ih =>
    obtain ⟨own, others⟩ := List.forall_mem_cons.1 outside
    cases parts with
    | nil => simpa using pieces_of_notMem own
    | cons next parts =>
      rw [List.intercalate_cons_cons, List.append_assoc, List.singleton_append,
        pieces_append (by simp), pieces_of_notMem own, ih (by simp) others, List.singleton_append]

/-- The pieces of a text are the parts without the separator that it joins. -/
theorem pieces_eq_iff {mark : Char} {t : Text} {parts : List Text} :
    pieces (· == mark) t = parts ↔
      parts ≠ [] ∧ (∀ part ∈ parts, mark ∉ part) ∧ List.intercalate [mark] parts = t := by
  constructor
  · rintro rfl
    refine ⟨pieces_ne_nil _ t, ?_, intercalate_pieces mark t⟩
    intro part found member
    simpa using separates_of_mem_pieces found mark member
  · rintro ⟨nonempty, outside, rfl⟩
    exact pieces_intercalate nonempty outside

/-- Unbroken lines are recovered from their text. -/
theorem ofLines_inj {ls ms : List Text} (hl : ∀ l ∈ ls, '\n' ∉ l) (hm : ∀ m ∈ ms, '\n' ∉ m) :
    ofLines ls = ofLines ms ↔ ls = ms :=
  ⟨(delimited_ended '\n').flatMap_inj (by simp) hl hm, fun same => by rw [same]⟩

/-- Unbroken lines are read back from their text. -/
theorem linesOf_ofLines {ls : List Text} (unbroken : ∀ l ∈ ls, '\n' ∉ l) :
    linesOf (ofLines ls) = ls := by
  have cut : pieces (· == '\n') (ofLines ls) = ls ++ [[]] := by
    induction ls with
    | nil => rfl
    | cons l ls ih =>
      obtain ⟨first, rest⟩ := List.forall_mem_cons.1 unbroken
      rw [ofLines_cons, pieces_line first, ih rest, List.cons_append]
  simp [linesOf, cut]

/-- What is not in the separator is in one of the parts. -/
theorem mem_intercalate_iff {c : Char} {separator : Text} (outside : c ∉ separator)
    (parts : List Text) : c ∈ List.intercalate separator parts ↔ ∃ part ∈ parts, c ∈ part := by
  induction parts with
  | nil => simp
  | cons part parts ih =>
    cases parts with
    | nil => simp
    | cons next parts =>
      rw [List.intercalate_cons_cons, List.mem_append, List.mem_append, ih, or_iff_left outside]
      simp

theorem notMem_intercalate {c : Char} {separator : Text} {parts : List Text}
    (inSeparator : c ∉ separator) (inParts : ∀ part ∈ parts, c ∉ part) :
    c ∉ List.intercalate separator parts := by
  rw [mem_intercalate_iff inSeparator]
  rintro ⟨part, member, inside⟩
  exact inParts part member inside

end NodeClasses.Text
