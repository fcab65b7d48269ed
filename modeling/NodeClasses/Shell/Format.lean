import NodeClasses.Shell.Arithmetic
import NodeClasses.Text.Bytes

/-!
# Formatted output

A format is written again and again until its operands are used up. `Format.write` says what is
written and which operands are complained about, and `Format.escaped` reads the backslashes of a
text that is printed as it is.
-/

namespace NodeClasses.Shell.Format
set_option autoImplicit false

open Text

/-- What a letter behind a backslash stands for. -/
def named? (c : Char) : Option Char :=
  match c with
  | 'a' => some '\x07'
  | 'b' => some '\x08'
  | 'e' => some '\x1b'
  | 'f' => some '\x0c'
  | 'n' => some '\n'
  | 'r' => some '\r'
  | 't' => some '\t'
  | 'v' => some '\x0b'
  | '\\' => some '\\'
  | _ => none

/-- The character with an octal code of at most the given number of digits, and the rest. -/
def octal : Nat → Nat → Text → Char × Text
  | n + 1, code, c :: rest =>
    match Arithmetic.digit? 8 c with
    | some d => octal n (8 * code + d) rest
    | none => (ofByte code, c :: rest)
  | _, code, rest => (ofByte code, rest)

/-- The character that stands behind a backslash, and the rest. A backslash that means nothing
stands for itself. -/
def escape : Text → Char × Text
  | [] => ('\\', [])
  | c :: rest =>
    match named? c with
    | some d => (d, rest)
    | none =>
      if (Arithmetic.digit? 8 c).isSome = true then octal 3 0 (c :: rest) else ('\\', c :: rest)

/-- The text with its backslashes read, at most the given number of characters, and whether all of
it is to be printed. Nothing is printed after `\c`. -/
def escapedFrom : Nat → Text → Text × Bool
  | 0, _ => ([], true)
  | _, [] => ([], true)
  | _, '\\' :: 'c' :: _ => ([], false)
  | n + 1, '\\' :: rest =>
    let (c, after) := match rest with
      | '0' :: digits => octal 3 0 digits
      | _ => escape rest
    let (t, isWhole) := escapedFrom n after
    (c :: t, isWhole)
  | n + 1, c :: rest =>
    let (t, isWhole) := escapedFrom n rest
    (c :: t, isWhole)

/-- The text with its backslashes read, and whether all of it is to be printed. -/
def escaped (t : Text) : Text × Bool := escapedFrom t.length t

/-- What operands look like between spaces, with their backslashes read, and whether all of it is
to be printed. -/
def escapedWords : List Text → Text × Bool
  | [] => ([], true)
  | [t] => escaped t
  | t :: ts =>
    match escaped t with
    | (u, false) => (u, false)
    | (u, true) =>
      let (v, isWhole) := escapedWords ts
      (u ++ ' ' :: v, isWhole)

/-- A number in a directive. -/
inductive Count where
  | given (n : Nat)
  /-- The next operand. -/
  | operand
  deriving DecidableEq, Repr

/-- What a format asks for. -/
inductive Directive where
  | text (t : Text)
  /-- An operand, as the last character of the directive with the given text shows it. -/
  | operand (source flags : Text) (width precision : Option Count) (conversion : Char)
  /-- A directive without its last character. -/
  | unfinished
  deriving DecidableEq, Repr

/-- The count at the start of a text, and the rest. -/
def count (t : Text) : Option Count × Text :=
  match t with
  | '*' :: rest => (some .operand, rest)
  | _ =>
    let digits := t.takeWhile Char.isDigit
    (if digits.isEmpty then none else some (.given (Arithmetic.digits 10 0 digits).1),
      t.drop digits.length)

/-- The directive behind a percent sign, and the rest. -/
def directive (t : Text) : Directive × Text :=
  let isFlag (c : Char) : Bool := ['#', '\x27', '-', '+', ' ', '0'].contains c
  let flags := t.takeWhile isFlag
  let (width, afterWidth) := count (t.drop flags.length)
  let (precision, rest) := match afterWidth with
    | '.' :: more =>
      let (p, rest) := count more
      (some (p.getD (.given 0)), rest)
    | _ => (none, afterWidth)
  match rest with
  | [] => (.unfinished, [])
  | c :: after =>
    let source := '%' :: t.take (t.length - after.length)
    (.operand source flags width precision c, after)

/-- The directives of a format, at most the given number. -/
def directives : Nat → Text → List Directive
  | 0, _ => []
  | _, [] => []
  | n + 1, '%' :: '%' :: rest => .text ['%'] :: directives n rest
  | n + 1, '%' :: rest =>
    let (d, after) := directive rest
    d :: directives n after
  | n + 1, '\\' :: rest =>
    let (c, after) := escape rest
    .text [c] :: directives n after
  | n + 1, c :: rest => .text [c] :: directives n rest

/-- What is wrong with an operand. -/
inductive Flaw where
  | noNumber (t : Text)
  /-- There is more behind the number. -/
  | incomplete (t : Text)
  | outOfRange (t : Text)
  deriving DecidableEq, Repr

/-- The wording of a flaw. -/
def Flaw.message : Flaw → Text
  | noNumber t => t ++ ": expected numeric value"
  | incomplete t => t ++ ": not completely converted"
  | outOfRange t => t ++ ": Numerical result out of range"

/-- How far writing has come. -/
structure Progress where
  written : Text
  /-- The operands that are left. -/
  operands : List Text
  /-- What is wrong with operands. -/
  flaws : List Flaw
  /-- Is nothing more to be written? -/
  isOver : Bool
  /-- Why writing ends too early, if it does. -/
  failure : Option Text
  deriving DecidableEq, Repr

/-- A text that is made to take as many bytes as asked for. -/
def pad (flags : Text) (width : Nat) (t : Text) : Text :=
  let gap := List.replicate (width - t.length) ' '
  if flags.contains '-' then t ++ gap else gap ++ t

/-- The integer that an operand spells, and what is wrong with it. -/
def integer (t : Text) : Int × List Flaw :=
  match t with
  | '\x27' :: c :: _ | '\x22' :: c :: _ => (c.toNat, [])
  | _ =>
    let bare := t.dropWhile fun c => c == ' ' || c == '\t' || c == '\n'
    let (sign, unsigned) : Int × Text := match bare with
      | '-' :: rest => (-1, rest)
      | '+' :: rest => (1, rest)
      | _ => (1, bare)
    if t.isEmpty then (0, [])
    else if (unsigned.head?.map Char.isDigit).getD false then
      let (n, rest) := Arithmetic.number unsigned
      let value := Arithmetic.clamp (sign * n)
      if rest.isEmpty = false then (value, [.incomplete t])
      else if value ≠ sign * n then (value, [.outOfRange t])
      else (value, [])
    else (0, [.noNumber t])

/-- Digits with a sign in front, made as long as asked for. Zeros fill up where a flag says so and
no precision is given. -/
def padNumber (flags : Text) (width : Nat) (precision : Option Nat) (sign digits : Text) : Text :=
  let full := List.replicate (precision.getD 1 - digits.length) '0' ++ digits
  if flags.contains '0' && !flags.contains '-' && precision.isNone then
    sign ++ List.replicate (width - sign.length - full.length) '0' ++ full
  else pad flags width (sign ++ full)

/-- The sign of a number. -/
def signOf (flags : Text) (isNegative : Bool) : Text :=
  if isNegative = true then ['-'] else if flags.contains '+' then ['+']
  else if flags.contains ' ' then [' '] else []

/-- An integer as a conversion shows it. -/
def showInteger (flags : Text) (width : Nat) (precision : Option Nat) (conversion : Char)
    (n : Int) : Text :=
  let unsigned := (Int64.ofInt n).toUInt64.toNat
  let mark (m : Text) : Text := if flags.contains '#' && unsigned != 0 then m else []
  match conversion with
  | 'o' => padNumber flags width precision (mark "0") (Nat.toDigits 8 unsigned)
  | 'x' => padNumber flags width precision (mark "0x") (Nat.toDigits 16 unsigned)
  | 'X' =>
    padNumber flags width precision (mark "0X") ((Nat.toDigits 16 unsigned).map Char.toUpper)
  | 'u' => padNumber flags width precision [] (ofNat unsigned)
  | _ => padNumber flags width precision (signOf flags (n < 0)) (ofNat n.natAbs)

namespace Progress

/-- The next operand, if there is one, and the progress without it. -/
def next (p : Progress) : Option Text × Progress :=
  (p.operands.head?, { p with operands := p.operands.tail })

/-- The progress with more text. -/
def put (p : Progress) (t : Text) : Progress := { p with written := p.written ++ t }

/-- The number that a directive gives or takes from the operands. -/
def countOf (p : Progress) : Option Count → Option Int × Progress
  | none => (none, p)
  | some (.given n) => (some n, p)
  | some .operand =>
    let (t, after) := p.next
    let (n, flaws) := integer (t.getD [])
    (some n, { after with flaws := after.flaws ++ flaws })

/-- Writes what a directive asks for. -/
def step (p : Progress) : Directive → Progress
  | .text t => p.put t
  | .unfinished => { p with isOver := true, failure := some "missing format character" }
  | .operand source flags width precision conversion =>
    let (width, p) := p.countOf width
    let (precision, p) := p.countOf precision
    let flags := if width.getD 0 < 0 then '-' :: flags else flags
    let width := (width.getD 0).natAbs
    let precision := precision.bind fun n => if n < 0 then none else some n.natAbs
    let cut (t : Text) : Text := match precision with
      | none => t
      | some n => t.take n
    let (t, after) := p.next
    if conversion = 's' then after.put (pad flags width (cut (t.getD [])))
    else if conversion = 'c' then after.put (pad flags width [(t.getD []).headD '\x00'])
    else if conversion = 'b' then
      let (u, isWhole) := escaped (t.getD [])
      { after.put (pad flags width (cut u)) with isOver := !isWhole }
    else if ['d', 'i', 'o', 'u', 'x', 'X'].contains conversion then
      let (n, flaws) := integer (t.getD [])
      { after.put (showInteger flags width precision conversion n) with
        flaws := after.flaws ++ flaws }
    else
      { p with isOver := true, failure := some (source ++ ": invalid directive") }

/-- Writes what directives ask for, as far as nothing ends it. -/
def steps (p : Progress) (ds : List Directive) : Progress :=
  ds.foldl (fun p d => if p.isOver = true then p else p.step d) p

end Progress

/-- Writes directives again and again until the operands are used up, at most the given number of
times. -/
def writeAgain (ds : List Directive) : Nat → Progress → Progress
  | 0, p => p
  | n + 1, p =>
    let after := p.steps ds
    let isAgain := !after.isOver && !after.operands.isEmpty &&
      after.operands.length < p.operands.length
    if isAgain = true then writeAgain ds n after else after

/-- Writes a format with operands. -/
def write (pattern : Text) (operands : List Text) : Progress :=
  writeAgain (directives pattern.length pattern) (operands.length + 1)
    ⟨[], operands, [], false, none⟩

end NodeClasses.Shell.Format
