import NodeClasses.Text.Basic

/-!
# Shell scripts as trees

A script is a sequence of commands, and a command is made of words. A word is a list of parts,
most of which only a run can fill in. Each part says whether it stands in quotes: what a quoted
part gives is never split into fields and has no special meaning in a pattern.
-/

namespace NodeClasses.Shell
set_option autoImplicit false

/-- What is done for a parameter that is not set. -/
inductive Fallback where
  /-- A word takes its place. -/
  | use
  /-- The parameter is set to a word first. -/
  | assign
  /-- The run ends with a message. -/
  | refuse
  /-- The other way round: a word takes the place of a parameter that is set. -/
  | replace
  deriving DecidableEq, Repr

/-- Which piece of a value is cut off. -/
structure Trim where
  /-- Is it cut off the end? -/
  atEnd : Bool
  /-- Is it the longest one that fits? -/
  isLongest : Bool
  deriving DecidableEq, Repr

/-- How a file is opened. -/
inductive Mode where
  | read
  /-- For new text in place of the old one. -/
  | overwrite
  /-- Like `overwrite`, even where files are protected. -/
  | clobber
  /-- For new text behind the old one. -/
  | extend
  /-- For reading and writing. -/
  | both
  deriving DecidableEq, Repr

mutual

/-- A part of a word. -/
inductive Part where
  | text (t : Text) (isQuoted : Bool)
  | parameter (name : Text) (form : Form) (isQuoted : Bool)
  /-- What a command prints. -/
  | output (body : Command) (isQuoted : Bool)
  /-- The value of an arithmetic expression. -/
  | sum (expression : List Part) (isQuoted : Bool)

/-- How a parameter is looked at. -/
inductive Form where
  | value
  | length
  /-- The value, or a way out if there is none. An empty value may count as none. -/
  | orElse (fallback : Fallback) (emptyCounts : Bool) (word : List Part)
  /-- The value without a piece that fits a pattern. -/
  | trimmed (piece : Trim) (pattern : List Part)
  /-- No known way. -/
  | unknown

/-- A change of what a descriptor leads to. -/
inductive Redirection where
  | file (descriptor : Nat) (mode : Mode) (path : List Part)
  /-- To where another descriptor leads, or to nowhere for a dash. -/
  | copy (descriptor : Nat) (source : List Part)
  /-- To a text in the script itself. -/
  | document (descriptor : Nat) (body : List Part)

/-- A command. -/
inductive Command where
  /-- Assignments, the words of a call, and redirections. -/
  | simple (line : Nat) (assignments : List (Text × List Part)) (words : List (List Part))
      (redirections : List Redirection)
  /-- Each command reads what the one before it prints. -/
  | pipeline (stages : List Command)
  | negation (c : Command)
  /-- The second command runs if the first one succeeds. -/
  | conjunction (first second : Command)
  /-- The second command runs if the first one fails. -/
  | disjunction (first second : Command)
  | sequence (commands : List Command)
  /-- A command that nobody waits for. -/
  | background (c : Command)
  /-- A command that cannot change the state of the shell. -/
  | subshell (line : Nat) (body : Command)
  | conditional (test body : Command) (otherwise : Option Command)
  /-- Runs the body as long as the test succeeds, or else as long as it fails. -/
  | loop (whileFails : Bool) (test body : Command)
  /-- Runs the body for each field of the words, or for each argument. -/
  | each (name : Text) (words : Option (List (List Part))) (body : Command)
  /-- Runs the body of the first arm with a pattern that fits. -/
  | choice (subject : List Part) (arms : List (List (List Part) × Command))
  | definition (name : Text) (body : Command)
  | redirected (line : Nat) (c : Command) (redirections : List Redirection)

end

/-- A word, part by part. -/
abbrev Word := List Part

instance : Inhabited Part := ⟨.text [] false⟩

instance : Inhabited Command := ⟨.sequence []⟩

/-- Does the text begin like a name? -/
def isNameStart (c : Char) : Bool := c.isAlpha || c == '_'

/-- May the character stand in a name? -/
def isNameRest (c : Char) : Bool := isNameStart c || c.isDigit

/-- Is the text the name of a variable? -/
def isName : Text → Bool
  | [] => false
  | c :: rest => isNameStart c && rest.all isNameRest

end NodeClasses.Shell
