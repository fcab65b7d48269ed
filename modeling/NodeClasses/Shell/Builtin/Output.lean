import NodeClasses.Shell.Builtin.Basic
import NodeClasses.Shell.Condition
import NodeClasses.Shell.Format

/-!
# Printing and judging

The commands of the shell that print texts or judge conditions.
-/

namespace NodeClasses.Shell.Builtin
set_option autoImplicit false

open Text

/-- Prints words between spaces. -/
def echo : Builtin := fun _ _ words => do
  match words with
  | ['-', 'n'] :: rest => say (Format.escapedWords rest).1
  | _ => do
    let (t, isWhole) := Format.escapedWords words
    say (if isWhole = true then t ++ ['\n'] else t)
  return 0

/-- Prints a format with operands. -/
def printf : Builtin := fun _ _ words => withLetters [] words fun o => do
  match o.operands with
  | [] => fail "usage: printf format [arg ...]"
  | pattern :: operands => do
    let p := Format.write pattern operands
    for flaw in p.flaws do warn flaw.message
    if let some message := p.failure then warn message
    say p.written
    match p.failure with
    | some _ => do
      setStatus 2
      throw .error
    | none => return if p.flaws.isEmpty then 0 else 1

/-- Judges a condition. -/
def test : Builtin := fun _ _ words => do
  match Condition.holds (← get).view words with
  | .ok holds => return if holds = true then 0 else 1
  | .error message => do
    warn message
    return 2

/-- Judges a condition in brackets. -/
def bracket : Builtin := fun self isTested words => do
  if words.getLast? = some [']'] then test self isTested words.dropLast
  else do
    warn "missing ]"
    return 2

/-- Does nothing and succeeds. -/
def succeed : Builtin := fun _ _ _ => return 0

/-- Does nothing and does not succeed. -/
def refuse : Builtin := fun _ _ _ => return 1

end NodeClasses.Shell.Builtin
