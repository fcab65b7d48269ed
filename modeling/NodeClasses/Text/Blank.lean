import NodeClasses.Text.Basic

/-!
# Blanks and words

A blank is a character with the Unicode property White_Space. Trimming drops blanks at an end of a
text, the words of a text are its longest runs without a blank, and `splitLast?` cuts at the last
blank. `trim_surround` says that blanks around a text do not count, and `splitLast?_append` that
the cut is found behind everything else.
-/

namespace NodeClasses.Text
set_option autoImplicit false

/-- The code points with the property White_Space, as closed ranges in increasing order. -/
def blankRanges : List (Nat × Nat) :=
  [(0x09, 0x0D), (0x20, 0x20), (0x85, 0x85), (0xA0, 0xA0), (0x1680, 0x1680), (0x2000, 0x200A),
    (0x2028, 0x2029), (0x202F, 0x202F), (0x205F, 0x205F), (0x3000, 0x3000)]

/-- Has the character the property White_Space? -/
def isBlank (c : Char) : Bool := inRanges blankRanges c

/-- The text without the characters at its end that satisfy `p`. -/
def dropEndWhile (p : Char → Bool) (t : Text) : Text := (t.reverse.dropWhile p).reverse

@[simp] theorem dropEndWhile_nil (p : Char → Bool) : dropEndWhile p [] = [] := rfl

/-- A last character that fails `p` is kept, with all before it. -/
@[simp] theorem dropEndWhile_append_of_neg {p : Char → Bool} (t : Text) {c : Char}
    (h : p c = false) : dropEndWhile p (t ++ [c]) = t ++ [c] := by
  simp [dropEndWhile, h]

/-- The text without its leading blanks. -/
def trimStart (t : Text) : Text := t.dropWhile isBlank

/-- The text without its trailing blanks. -/
def trimEnd (t : Text) : Text := dropEndWhile isBlank t

/-- The text without the blanks at its two ends. -/
def trim (t : Text) : Text := trimEnd (trimStart t)

/-- A run of blanks at the end is dropped. -/
theorem trimEnd_append_blanks (t w : Text) (h : ∀ c ∈ w, isBlank c = true) :
    trimEnd (t ++ w) = trimEnd t := by
  unfold trimEnd dropEndWhile
  rw [List.reverse_append, List.dropWhile_append_of_pos (by simpa using h)]

/-- A run of blanks at the start is dropped. -/
theorem trimStart_blanks_append (w t : Text) (h : ∀ c ∈ w, isBlank c = true) :
    trimStart (w ++ t) = trimStart t :=
  List.dropWhile_append_of_pos h

/-- Blanks around a text do not count. -/
theorem trim_surround (w t w' : Text) (h : ∀ c ∈ w, isBlank c = true)
    (h' : ∀ c ∈ w', isBlank c = true) : trim (w ++ t ++ w') = trim t := by
  have drop : w'.dropWhile isBlank = [] := by
    have all : (w' ++ []).dropWhile isBlank = [] := List.dropWhile_append_of_pos h'
    rwa [List.append_nil] at all
  unfold trim
  rw [List.append_assoc, trimStart_blanks_append w _ h]
  unfold trimStart
  rw [List.dropWhile_append]
  split
  · next empty => rw [drop, List.isEmpty_iff.1 empty]
  · exact trimEnd_append_blanks _ _ h'

/-- The words of a text: its longest runs of characters other than blanks. -/
def words (t : Text) : List Text := (pieces isBlank t).filter fun w => !w.isEmpty

/-- The parts before and behind the last blank, if there is a blank. -/
def splitLast? (t : Text) : Option (Text × Text) :=
  match t.reverse.dropWhile fun c => !isBlank c with
  | [] => none
  | _ :: before => some (before.reverse, (t.reverse.takeWhile fun c => !isBlank c).reverse)

/-- The cut is made at the blank behind which no blank follows. -/
theorem splitLast?_append (before last : Text) {c : Char} (hc : isBlank c = true)
    (h : ∀ d ∈ last, isBlank d = false) :
    splitLast? (before ++ c :: last) = some (before, last) := by
  have hr : ∀ d ∈ last.reverse, (!isBlank d) = true := by simpa using h
  have rev : (before ++ c :: last).reverse = last.reverse ++ c :: before.reverse := by simp
  have drop : (before ++ c :: last).reverse.dropWhile (fun c => !isBlank c) =
      c :: before.reverse := by
    rw [rev, List.dropWhile_append_of_pos hr]
    simp [hc]
  have take : (before ++ c :: last).reverse.takeWhile (fun c => !isBlank c) = last.reverse := by
    rw [rev, List.takeWhile_append_of_pos hr]
    simp [hc]
  simp only [splitLast?, drop, take, List.reverse_reverse]

/-- A text without a blank has no such cut. -/
theorem splitLast?_eq_none {t : Text} (h : ∀ c ∈ t, isBlank c = false) : splitLast? t = none := by
  have all : ∀ c ∈ t.reverse, (!isBlank c) = true := by simpa using h
  have drop : (t.reverse ++ []).dropWhile (fun c => !isBlank c) = [] :=
    List.dropWhile_append_of_pos all
  rw [List.append_nil] at drop
  simp only [splitLast?, drop]

end NodeClasses.Text
