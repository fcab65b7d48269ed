/-!
# Texts

A text is a list of characters, so that every rule of the library is a statement about lists.
Fixed wording is written as a string literal and read through `Text.ofString`. `Text.ofLines` ends
each line with a line feed, `Text.inRanges` tells classes of characters, and `Text.pieces` cuts a
text at separators: `intercalate_pieces` says that cutting loses only the separators.
-/

namespace NodeClasses
set_option autoImplicit false

/-- A text: its characters in order. -/
abbrev Text := List Char

namespace Text

/-- The text that a string literal spells. -/
@[irreducible, coe] def ofString (s : String) : Text := s.toList

@[simp] theorem ofString_eq (s : String) : ofString s = s.toList := by
  simp [ofString]

instance : Coe String Text := ⟨ofString⟩

/-- The decimal digits of a number. -/
def ofNat (n : Nat) : Text := Nat.toDigits 10 n

/-- A text between grave accents, as messages show names and entries. -/
def quoted (t : Text) : Text := "`" ++ t ++ "`"

/-- The text with the given lines, each ended by a line feed. -/
def ofLines (ls : List Text) : Text := ls.flatMap fun l => l ++ ['\n']

@[simp] theorem ofLines_nil : ofLines [] = [] := rfl

@[simp] theorem ofLines_cons (l : Text) (ls : List Text) :
    ofLines (l :: ls) = l ++ '\n' :: ofLines ls := by
  simp [ofLines]

@[simp] theorem ofLines_append (ls ms : List Text) :
    ofLines (ls ++ ms) = ofLines ls ++ ofLines ms := by
  simp [ofLines]

/-- Does the code point of the character lie in one of the closed ranges? -/
def inRanges (ranges : List (Nat × Nat)) (c : Char) : Bool :=
  ranges.any fun r => decide (r.1 ≤ c.toNat) && decide (c.toNat ≤ r.2)

theorem inRanges_iff {ranges : List (Nat × Nat)} {c : Char} :
    inRanges ranges c = true ↔ ∃ r ∈ ranges, r.1 ≤ c.toNat ∧ c.toNat ≤ r.2 := by
  simp [inRanges]

/-- The pieces between the characters that satisfy `p`, empty ones included. -/
def pieces (p : Char → Bool) : Text → List Text
  | [] => [[]]
  | c :: rest =>
    if p c then [] :: pieces p rest
    else
      match pieces p rest with
      | [] => [[c]]
      | piece :: more => (c :: piece) :: more

/-- The lines of a text, without their ends. A last line need not be ended. -/
def linesOf (t : Text) : List Text :=
  let ls := pieces (· == '\n') t
  if ls.getLast? = some [] then ls.dropLast else ls

/-- The pieces of a text with the character that ends each of them. The last one need not be
ended. -/
def endedPieces (mark : Char) (t : Text) : List Text :=
  let ls := pieces (· == mark) t
  let ended := ls.dropLast.map fun l => l ++ [mark]
  match ls.getLast? with
  | some (c :: l) => ended ++ [c :: l]
  | _ => ended

/-- The lines of a text with their ends. -/
def endedLines (t : Text) : List Text := endedPieces '\n' t

theorem pieces_ne_nil (p : Char → Bool) (t : Text) : pieces p t ≠ [] := by
  cases t with
  | nil => simp [pieces]
  | cons c rest =>
    simp only [pieces]
    split
    · simp
    · split <;> simp

/-- A separator closes the piece before it. -/
theorem pieces_separator {p : Char → Bool} {c : Char} (rest : Text) (h : p c = true) :
    pieces p (c :: rest) = [] :: pieces p rest := by
  simp [pieces, h]

/-- Any other character joins the piece that follows it. -/
theorem pieces_cons {p : Char → Bool} {c : Char} {rest piece : Text} {more : List Text}
    (h : p c = false) (hr : pieces p rest = piece :: more) :
    pieces p (c :: rest) = (c :: piece) :: more := by
  simp [pieces, h, hr]

/-- Putting the separator back between the pieces gives the text. -/
theorem intercalate_pieces (c : Char) (t : Text) :
    [c].intercalate (pieces (· == c) t) = t := by
  induction t with
  | nil => rfl
  | cons d rest ih =>
    obtain ⟨piece, more, hp⟩ := List.exists_cons_of_ne_nil (pieces_ne_nil (· == c) rest)
    by_cases h : d = c
    · subst h
      rw [pieces_separator rest (by simp), hp, List.intercalate_cons_cons, ← hp, ih]
      rfl
    · rw [pieces_cons (by simpa using h) hp]
      rw [hp] at ih
      cases more with
      | nil => simpa [List.intercalate] using ih
      | cons next more =>
        rw [List.intercalate_cons_cons] at ih ⊢
        simp [← ih]

end Text

end NodeClasses
