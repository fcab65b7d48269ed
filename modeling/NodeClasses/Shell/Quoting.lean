import NodeClasses.Text.Basic

/-!
# Names in messages

A message shows a name as a shell would read it back: between quotes where that is needed, and
with the bytes of what cannot be printed as numbers. `quoted` always puts quotes around a name,
and `quotedIfNeeded` leaves a plain one as it is.
-/

namespace NodeClasses.Shell.Quoting
set_option autoImplicit false

open Text

/-- The characters that a shell would not read as themselves. -/
def special : List Char := " !\x22$&\x27()*:;<=>?[\\^\x60|".toList

/-- Is the character one that can be printed? -/
def isPrintable (c : Char) : Bool := ' ' ≤ c && c ≤ '~'

/-- Would a shell read the character as anything else than itself, wherever it stands? -/
def isSpecialChar (c : Char) : Bool := special.contains c || !isPrintable c

/-- Would a shell read anything else than the name itself? -/
def isSpecial (t : Text) : Bool :=
  match t with
  | [] => true
  | [c] => isSpecialChar c || ['#', '~', '\x7b', '\x7d'].contains c
  | c :: rest => c == '#' || c == '~' || (c :: rest).any isSpecialChar

/-- The letters behind a backslash that stand for characters which cannot be printed. -/
def letters : List (Char × Char) :=
  [('\x07', 'a'), ('\x08', 'b'), ('\t', 't'), ('\n', 'n'), ('\x0b', 'v'), ('\x0c', 'f'),
    ('\r', 'r')]

/-- A byte that cannot be printed: as a letter, or as an octal number. -/
def escaped (c : Char) : Text :=
  match letters.lookup c with
  | some letter => ['\\', letter]
  | none =>
    let digits := Nat.toDigits 8 c.toNat
    '\\' :: (List.replicate (3 - digits.length) '0' ++ digits)

/-- What stands between the outer quotes of a name. Characters that cannot be printed stand between
quotes of their own, which may be open. -/
def inside : Bool → Text → Text
  | _, [] => []
  | isOpen, c :: rest =>
    if c = '\x27' then ['\x27', '\\', '\x27', '\x27'] ++ inside false rest
    else if isPrintable c = true then
      (if isOpen = true then ['\x27', '\x27'] else []) ++ c :: inside false rest
    else (if isOpen = true then [] else ['\x27', '$', '\x27']) ++ escaped c ++ inside true rest

/-- May the character stand between double quotes as well as between single ones? -/
def isCommon (c : Char) : Bool := c.isAlphanum || " %'+,-./:]_".toList.contains c

/-- A name between quotes: double ones if it holds a single quote and nothing that would be read
there. -/
def quoted (t : Text) : Text :=
  if t.contains '\x27' && t.all isCommon then "\x22" ++ t ++ "\x22"
  else "\x27" ++ inside false t ++ "\x27"

/-- A name, between quotes only if a shell would read anything else than the name itself. -/
def quotedIfNeeded (t : Text) : Text := if isSpecial t = true then quoted t else t

end NodeClasses.Shell.Quoting
