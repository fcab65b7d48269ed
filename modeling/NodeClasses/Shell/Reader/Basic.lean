import NodeClasses.Shell.Syntax

/-!
# Reading scripts

A reader takes characters from the front of a script and keeps count of the lines. What can nest
in a script is read through `Nested`, so that each level of nesting takes one step of the depth
that is left. `iterate` repeats a step at most as often as there are characters.
-/

namespace NodeClasses.Shell
set_option autoImplicit false

/-- A place in a script. -/
structure Cursor where
  /-- What is still to be read. -/
  rest : Text
  /-- The number of the line, from one. -/
  line : Nat
  /-- The lines that were taken out of the script behind the current line. -/
  skipped : Nat
  deriving DecidableEq, Repr

/-- Why a script cannot be read. -/
structure SyntaxError where
  line : Nat
  message : Text
  deriving DecidableEq, Repr

/-- Takes characters from the front of a script. -/
abbrev Reader (α : Type) := StateT Cursor (Except SyntaxError) α

/-- Where parts of words are read, which decides what ends them and what is special there. -/
inductive Context where
  /-- Between blanks and operators. -/
  | bare
  /-- Between braces, outside of double quotes. -/
  | braces
  /-- Between braces, inside of double quotes. -/
  | quotedBraces
  /-- Between double quotes. -/
  | quotes
  /-- In a text that a script holds for a command to read. -/
  | document
  /-- In an arithmetic expression. -/
  | sum
  deriving DecidableEq, Repr

/-- What may stand inside something else. -/
structure Nested where
  /-- Parts up to where the context ends. -/
  parts : Context → Reader (List Part)
  /-- Commands up to a word or an operator that ends a list. May there be none? -/
  list : Bool → Reader Command
  /-- Commands up to a closing parenthesis, which is read as well. -/
  enclosed : Reader Command
  /-- One command with its redirections. -/
  command : Reader Command

namespace Cursor

/-- The start of a script. -/
def start (script : Text) : Cursor := ⟨script, 1, 0⟩

/-- At least so many steps are left, in each of which a character is taken. -/
def room (c : Cursor) : Nat := c.rest.length + 2

/-- The place behind the next character. -/
def advance (c : Cursor) : Cursor :=
  match c.rest with
  | [] => c
  | '\n' :: rest => { c with rest := rest, line := c.line + 1 + c.skipped, skipped := 0 }
  | _ :: rest => { c with rest := rest }

end Cursor

namespace Reader

/-- Refuses the script where it stands. -/
def refuse {α : Type} (message : Text) : Reader α := do
  throw ⟨(← get).line, message⟩

/-- Refuses the script as it stood in the given line. -/
def refuseAt {α : Type} (line : Nat) (message : Text) : Reader α := throw ⟨line, message⟩

/-- What is still to be read. -/
def rest : Reader Text := return (← get).rest

/-- Skips some characters. -/
def skip : Nat → Reader Unit
  | 0 => return
  | n + 1 => do
    modify Cursor.advance
    skip n

/-- Reads without moving on. -/
def lookAhead {α : Type} (r : Reader α) : Reader α := do
  let here ← get
  let a ← r
  set here
  return a

/-- Reads another text, and then goes on where it was. -/
def within {α : Type} (t : Text) (r : Reader α) : Reader α := do
  let here ← get
  set { here with rest := t }
  let a ← r
  set here
  return a

/-- Repeats a step until it gives a result, at most the given number of times. -/
def repeatStep {α β : Type} (step : α → Reader (α ⊕ β)) : Nat → α → Reader β
  | 0, _ => refuse "script too long"
  | n + 1, a => do
    match ← step a with
    | .inl next => repeatStep step n next
    | .inr b => return b

/-- Repeats a step that takes a character each time until it gives a result. -/
def iterate {α β : Type} (step : α → Reader (α ⊕ β)) (a : α) : Reader β := do
  repeatStep step (← get).room a

/-- Takes characters as long as they satisfy `p`. -/
def takeWhile (p : Char → Bool) : Reader Text := do
  let taken := (← rest).takeWhile p
  skip taken.length
  return taken

end Reader

end NodeClasses.Shell
