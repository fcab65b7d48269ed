import NodeClasses.Text.Basic

/-!
# Patterns

A pattern describes texts: a question mark stands for any character, an asterisk for any text, and
brackets for one of several characters. Characters that are quoted stand for themselves.
-/

namespace NodeClasses.Shell
set_option autoImplicit false

/-- A character of a pattern, and whether it is quoted. -/
abbrev Mark := Char × Bool

/-- An item of a pattern. -/
inductive Pattern.Item where
  | one (c : Char)
  | any
  | many
  /-- A character in one of the ranges, or else one in none of them. -/
  | oneOf (ranges : List (Nat × Nat)) (isNegated : Bool)
  deriving DecidableEq, Repr

/-- A pattern, item by item. -/
abbrev Pattern := List Pattern.Item

namespace Pattern

/-- The characters of a named class. -/
def classRanges (name : Text) : List (Nat × Nat) :=
  if name = "digit" then [(48, 57)]
  else if name = "upper" then [(65, 90)]
  else if name = "lower" then [(97, 122)]
  else if name = "alpha" then [(65, 90), (97, 122)]
  else if name = "alnum" then [(48, 57), (65, 90), (97, 122)]
  else if name = "xdigit" then [(48, 57), (65, 70), (97, 102)]
  else if name = "blank" then [(9, 9), (32, 32)]
  else if name = "space" then [(9, 13), (32, 32)]
  else if name = "cntrl" then [(0, 31), (127, 127)]
  else if name = "graph" then [(33, 126)]
  else if name = "print" then [(32, 126)]
  else if name = "punct" then [(33, 47), (58, 64), (91, 96), (123, 126)]
  else []

/-- The name of the class and what follows it, at the start of a class in brackets. -/
def className? (marks : List Mark) : Option (Text × List Mark) :=
  match marks with
  | ('[', false) :: (':', false) :: rest =>
    let name := (rest.takeWhile fun m => m.1.isAlpha).map Prod.fst
    match rest.drop name.length with
    | (':', _) :: (']', _) :: after => some (name, after)
    | _ => none
  | _ => none

/-- The ranges up to the closing bracket and what follows it, at most the given number. A bracket
that comes first stands for itself. -/
def ranges? : Nat → Bool → List Mark → Option (List (Nat × Nat) × List Mark)
  | 0, _, _ => none
  | _, _, [] => none
  | n + 1, isFirst, (c, isQuoted) :: rest =>
    if c = ']' ∧ isQuoted = false ∧ isFirst = false then some ([], rest)
    else
      match className? ((c, isQuoted) :: rest) with
      | some (name, after) => (ranges? n false after).map fun r => (classRanges name ++ r.1, r.2)
      | none =>
        match rest with
        | ('-', false) :: (d, q) :: after =>
          if d = ']' ∧ q = false then
            (ranges? n false rest).map fun r => ((c.toNat, c.toNat) :: r.1, r.2)
          else (ranges? n false after).map fun r => ((c.toNat, d.toNat) :: r.1, r.2)
        | _ => (ranges? n false rest).map fun r => ((c.toNat, c.toNat) :: r.1, r.2)

/-- The item that an opening bracket starts, and what follows it. Without a closing bracket the
opening one stands for itself. -/
def bracket (rest : List Mark) : Item × List Mark :=
  let isNegated := match rest with
    | (c, false) :: _ => c == '!'
    | _ => false
  match ranges? (rest.length + 1) true (if isNegated = true then rest.tail else rest) with
  | some (ranges, after) => (.oneOf ranges isNegated, after)
  | none => (.one '[', rest)

/-- The first items of the pattern that marks spell, at most the given number. -/
def itemsOf : Nat → List Mark → Pattern
  | 0, _ => []
  | _, [] => []
  | n + 1, (c, isQuoted) :: rest =>
    if isQuoted = true then .one c :: itemsOf n rest
    else if c = '?' then .any :: itemsOf n rest
    else if c = '*' then .many :: itemsOf n rest
    else if c = '[' then
      let (item, after) := bracket rest
      item :: itemsOf n after
    else .one c :: itemsOf n rest

/-- The pattern that marks spell. -/
def ofMarks (marks : List Mark) : Pattern := itemsOf marks.length marks

/-- May the marks fit more than the text that they spell? -/
def isOpen (marks : List Mark) : Bool :=
  marks.any fun m => !m.2 && (m.1 == '*' || m.1 == '?' || m.1 == '[')

namespace Item

/-- Does the item fit the character? -/
def fits : Item → Char → Bool
  | .one d, c => d == c
  | .any, _ => true
  | .many, _ => false
  | .oneOf ranges isNegated, c => Text.inRanges ranges c != isNegated

end Item

/-- Does the pattern fit the whole text? -/
def fits : Pattern → Text → Bool
  | [], t => t.isEmpty
  | .many :: rest, [] => fits rest []
  | .many :: rest, c :: t => fits rest (c :: t) || fits (.many :: rest) t
  | _ :: _, [] => false
  | item :: rest, c :: t => item.fits c && fits rest t
termination_by p t => p.length + t.length

/-- The lengths at which a text may be cut, the preferred ones first. -/
def cuts (isLongest : Bool) (t : Text) : List Nat :=
  let upward := List.range (t.length + 1)
  if isLongest = true then upward.reverse else upward

/-- The text without the piece at its start that fits. -/
def dropStart (p : Pattern) (isLongest : Bool) (t : Text) : Text :=
  match (cuts isLongest t).find? fun n => fits p (t.take n) with
  | none => t
  | some n => t.drop n

/-- The text without the piece at its end that fits. -/
def dropEnd (p : Pattern) (isLongest : Bool) (t : Text) : Text :=
  match (cuts isLongest t).find? fun n => fits p (t.drop (t.length - n)) with
  | none => t
  | some n => t.take (t.length - n)

end Pattern

end NodeClasses.Shell
