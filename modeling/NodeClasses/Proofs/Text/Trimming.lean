import Mathlib.Data.List.DropRight
import NodeClasses.Text.Blank

/-!
# Trimmed texts

A trimmed text starts and ends with characters other than blanks. Every text is one with blanks
around it, `exists_trim`, and the blanks in front of a text that starts with another character are
told by the whole, `blanks_append_inj`. `splitLast?_eq_some_iff` says where the cut at the last
blank is made.
-/

namespace NodeClasses.Text
set_option autoImplicit false

/-- The text is made of blanks. -/
def AllBlank (w : Text) : Prop := ∀ c ∈ w, isBlank c = true

/-- The text has a first character, and it is no blank. -/
def StartsBare (t : Text) : Prop := ∃ c ∈ t.head?, isBlank c = false

/-- The text has a last character, and it is no blank. -/
def EndsBare (t : Text) : Prop := ∃ c ∈ t.getLast?, isBlank c = false

instance (w : Text) : Decidable (AllBlank w) :=
  decidable_of_iff (w.all isBlank = true) List.all_eq_true

instance (t : Text) : Decidable (StartsBare t) :=
  decidable_of_iff (t.head?.any (fun c => !isBlank c) = true)
    (by simp [StartsBare, Option.any_eq_true])

instance (t : Text) : Decidable (EndsBare t) :=
  decidable_of_iff (t.getLast?.any (fun c => !isBlank c) = true)
    (by simp [EndsBare, Option.any_eq_true])

theorem startsBare_cons {c : Char} {t : Text} : StartsBare (c :: t) ↔ isBlank c = false := by
  simp [StartsBare]

theorem StartsBare.ne_nil {t : Text} (h : StartsBare t) : t ≠ [] := by
  rintro rfl
  simp [StartsBare] at h

theorem StartsBare.append {t : Text} (h : StartsBare t) (u : Text) : StartsBare (t ++ u) := by
  obtain ⟨c, rest, rfl⟩ := List.exists_cons_of_ne_nil h.ne_nil
  exact startsBare_cons.2 (startsBare_cons.1 h)

/-- What is in front of other text starts as the whole does, unless it is empty. -/
theorem StartsBare.of_append {t u : Text} (h : StartsBare (t ++ u)) (ne : t ≠ []) :
    StartsBare t := by
  obtain ⟨c, rest, rfl⟩ := List.exists_cons_of_ne_nil ne
  exact startsBare_cons.2 (startsBare_cons.1 h)

theorem startsBare_of_forall {t : Text} (bare : ∀ c ∈ t, isBlank c = false) (ne : t ≠ []) :
    StartsBare t := by
  obtain ⟨c, rest, rfl⟩ := List.exists_cons_of_ne_nil ne
  exact startsBare_cons.2 (bare c List.mem_cons_self)

theorem endsBare_append {u : Text} (h : EndsBare u) (t : Text) : EndsBare (t ++ u) := by
  obtain ⟨c, last, bare⟩ := h
  exact ⟨c, by simp [List.getLast?_append, Option.mem_def.1 last], bare⟩

theorem endsBare_of_forall {t : Text} (bare : ∀ c ∈ t, isBlank c = false) (ne : t ≠ []) :
    EndsBare t :=
  ⟨t.getLast ne, List.getLast?_eq_some_getLast ne, bare _ (List.getLast_mem ne)⟩

/-! ### Trimming -/

theorem trimStart_of_startsBare {t : Text} (h : StartsBare t) : trimStart t = t := by
  obtain ⟨c, rest, rfl⟩ := List.exists_cons_of_ne_nil h.ne_nil
  simp [trimStart, startsBare_cons.1 h]

theorem trimEnd_of_endsBare {t : Text} (h : EndsBare t) : trimEnd t = t := by
  obtain ⟨c, last, bare⟩ := h
  obtain ⟨before, rfl⟩ := List.getLast?_eq_some_iff.1 last
  exact dropEndWhile_append_of_neg before bare

theorem trim_of_bare {t : Text} (first : StartsBare t) (last : EndsBare t) : trim t = t := by
  rw [trim, trimStart_of_startsBare first, trimEnd_of_endsBare last]

theorem trimStart_eq_nil_or (t : Text) : trimStart t = [] ∨ StartsBare (trimStart t) := by
  cases h : trimStart t with
  | nil => exact .inl rfl
  | cons c rest =>
    have stops : ∀ w : Text, ∀ d ∈ (w.dropWhile isBlank).head?, isBlank d = false := by
      intro w d first
      simpa [Option.mem_def.1 first] using List.head?_dropWhile_not isBlank w
    refine .inr (startsBare_cons.2 (stops t c ?_))
    rw [← trimStart, h]
    rfl

theorem trimEnd_eq_nil_or (t : Text) : trimEnd t = [] ∨ EndsBare (trimEnd t) := by
  have reversed : trimEnd t = (trimStart t.reverse).reverse := rfl
  rw [reversed]
  refine (trimStart_eq_nil_or t.reverse).imp (by simp [·]) ?_
  rintro ⟨c, first, bare⟩
  exact ⟨c, by rwa [List.getLast?_reverse], bare⟩

/-- The blanks that trimming takes off the start. -/
theorem exists_trimStart (t : Text) : ∃ w, AllBlank w ∧ t = w ++ trimStart t :=
  ⟨t.takeWhile isBlank, List.all_eq_true.1 List.all_takeWhile,
    (List.takeWhile_append_dropWhile (p := isBlank)).symm⟩

/-- The characters that are dropped from the end of a text. -/
theorem exists_dropEndWhile (p : Char → Bool) (t : Text) :
    ∃ w, (∀ c ∈ w, p c = true) ∧ t = dropEndWhile p t ++ w :=
  ⟨t.rtakeWhile p, fun _ => List.mem_rtakeWhile_imp, List.rdropWhile_append_rtakeWhile.symm⟩

/-- A run of such characters at the end does not count. -/
theorem dropEndWhile_append_run {p : Char → Bool} (t : Text) {w : Text}
    (run : ∀ c ∈ w, p c = true) : dropEndWhile p (t ++ w) = dropEndWhile p t := by
  unfold dropEndWhile
  rw [List.reverse_append, List.dropWhile_append_of_pos (by simpa using run)]

/-- The blanks that trimming takes off the end. -/
theorem exists_trimEnd (t : Text) : ∃ w, AllBlank w ∧ t = trimEnd t ++ w :=
  exists_dropEndWhile isBlank t

/-- A text is its trimmed text with blanks around it. -/
theorem exists_trim (t : Text) : ∃ w w', AllBlank w ∧ AllBlank w' ∧ t = w ++ trim t ++ w' := by
  obtain ⟨w, blank, front⟩ := exists_trimStart t
  obtain ⟨w', blank', back⟩ := exists_trimEnd (trimStart t)
  exact ⟨w, w', blank, blank', by rw [List.append_assoc, trim, ← back, ← front]⟩

/-- A trimmed text that is not empty starts with a character other than a blank. -/
theorem startsBare_trim {t : Text} (ne : trim t ≠ []) : StartsBare (trim t) := by
  obtain ⟨w, -, back⟩ := exists_trimEnd (trimStart t)
  rcases trimStart_eq_nil_or t with empty | first
  · exact absurd (by simp [trim, empty, trimEnd]) ne
  · exact StartsBare.of_append (back ▸ first) ne

/-- Trimming takes away blanks only. -/
theorem mem_trim {t : Text} {c : Char} (member : c ∈ t) (bare : isBlank c = false) :
    c ∈ trim t := by
  obtain ⟨w, w', front, back, text⟩ := exists_trim t
  rw [text, List.mem_append, List.mem_append] at member
  rcases member with (before | inside) | behind
  · exact absurd (front c before) (by simp [bare])
  · exact inside
  · exact absurd (back c behind) (by simp [bare])

/-- Trimming leaves something exactly of texts that are not all blank. -/
theorem trim_ne_nil_iff {t : Text} : trim t ≠ [] ↔ ∃ c ∈ t, isBlank c = false := by
  constructor
  · intro ne
    obtain ⟨c, first, bare⟩ := startsBare_trim ne
    obtain ⟨w, w', -, -, text⟩ := exists_trim t
    exact ⟨c, by rw [text]; simp [List.mem_of_mem_head? first], bare⟩
  · rintro ⟨c, member, bare⟩
    exact List.ne_nil_of_mem (mem_trim member bare)

theorem trimEnd_trim (t : Text) : trimEnd (trim t) = trim t := by
  rcases trimEnd_eq_nil_or (trimStart t) with empty | last
  · rw [trim, empty]
    rfl
  · exact trimEnd_of_endsBare last

/-! ### Blanks that are told by the whole -/

/-- Blanks in front of a text end where it starts. -/
theorem blanks_append_inj {w w' t t' : Text} (blank : AllBlank w) (blank' : AllBlank w')
    (first : StartsBare t) (first' : StartsBare t') (same : w ++ t = w' ++ t') :
    w = w' ∧ t = t' := by
  have run {v u : Text} (blanks : AllBlank v) (bare : StartsBare u) :
      (v ++ u).takeWhile isBlank = v := by
    obtain ⟨c, rest, rfl⟩ := List.exists_cons_of_ne_nil bare.ne_nil
    rw [List.takeWhile_append_of_pos blanks]
    simp [startsBare_cons.1 bare]
  have front : w = w' := by rw [← run blank first, same, run blank' first']
  subst front
  exact ⟨rfl, List.append_cancel_left same⟩

/-- A text with a blank has a last one. -/
theorem exists_lastBlank {t : Text} (h : ∃ c ∈ t, isBlank c = true) :
    ∃ before c last, isBlank c = true ∧ t = before ++ c :: last ∧
      ∀ d ∈ last, isBlank d = false := by
  induction t with
  | nil => simp at h
  | cons c t ih =>
    by_cases later : ∃ d ∈ t, isBlank d = true
    case pos =>
      obtain ⟨before, d, last, blank, rfl, bare⟩ := ih later
      exact ⟨c :: before, d, last, blank, rfl, bare⟩
    case neg =>
      have bare : ∀ d ∈ t, isBlank d = false := by simpa using later
      obtain ⟨d, member, blank⟩ := h
      rcases List.mem_cons.1 member with rfl | inside
      · exact ⟨[], d, t, blank, rfl, bare⟩
      · exact absurd ⟨d, inside, blank⟩ later

/-- The cut at the last blank has a blank in it and none behind it. -/
theorem splitLast?_eq_some_iff {t before last : Text} :
    splitLast? t = some (before, last) ↔
      ∃ c, isBlank c = true ∧ t = before ++ c :: last ∧ ∀ d ∈ last, isBlank d = false := by
  constructor
  · intro cut
    by_cases blank : ∃ c ∈ t, isBlank c = true
    case pos =>
      obtain ⟨before', c, last', isLast, rfl, bare⟩ := exists_lastBlank blank
      rw [splitLast?_append before' last' isLast bare] at cut
      obtain ⟨rfl, rfl⟩ := Prod.mk.inj (Option.some.inj cut)
      exact ⟨c, isLast, rfl, bare⟩
    case neg =>
      have none : ∀ c ∈ t, isBlank c = false := by simpa using blank
      simp [splitLast?_eq_none none] at cut
  · rintro ⟨c, blank, rfl, bare⟩
    exact splitLast?_append before last blank bare

/-! ### Words -/

/-- A character that does not separate is in one of the pieces. -/
theorem exists_piece_of_mem {p : Char → Bool} {t : Text} {c : Char} (member : c ∈ t)
    (inside : p c = false) : ∃ piece ∈ pieces p t, c ∈ piece := by
  induction t with
  | nil => cases member
  | cons d t ih =>
    cases separates : p d with
    | true =>
      have ne : c ≠ d := by
        rintro rfl
        simp [inside] at separates
      obtain ⟨piece, found, own⟩ := ih (List.mem_of_ne_of_mem ne member)
      rw [pieces_separator t separates]
      exact ⟨piece, List.mem_cons_of_mem _ found, own⟩
    | false =>
      obtain ⟨first, more, cut⟩ := List.exists_cons_of_ne_nil (pieces_ne_nil p t)
      rw [pieces_cons separates cut]
      rcases List.mem_cons.1 member with rfl | later
      · exact ⟨c :: first, List.mem_cons_self, List.mem_cons_self⟩
      · obtain ⟨piece, found, own⟩ := ih later
        rw [cut] at found
        rcases List.mem_cons.1 found with rfl | other
        · exact ⟨d :: piece, List.mem_cons_self, List.mem_cons_of_mem _ own⟩
        · exact ⟨piece, List.mem_cons_of_mem _ other, own⟩

/-- Every character of a text, apart from blanks, is in one of its words. -/
theorem exists_word_of_mem {t : Text} {c : Char} (member : c ∈ t) (bare : isBlank c = false) :
    ∃ word ∈ words t, c ∈ word := by
  obtain ⟨piece, found, own⟩ := exists_piece_of_mem member bare
  have worded : (!piece.isEmpty) = true := by
    simpa using List.ne_nil_of_mem own
  exact ⟨piece, List.mem_filter.2 ⟨found, worded⟩, own⟩

end NodeClasses.Text
