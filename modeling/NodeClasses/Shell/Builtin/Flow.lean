import NodeClasses.Shell.Builtin.Basic

/-!
# The flow of a script

The commands of the shell that leave loops, functions and the shell itself, and those that run
other scripts as a part of this one.
-/

namespace NodeClasses.Shell.Builtin
set_option autoImplicit false

open Text

/-- The number of loops that an argument asks to leave, as far as there are so many. -/
def loopCount (words : List Text) : ShellM Nat := do
  match words with
  | [] => return min 1 (← get).loops
  | t :: _ => do
    let n ← checkedNumber t
    if n = 0 then fail ("Illegal number: " ++ t)
    return min n (← get).loops

/-- Leaves loops. -/
def leave : Builtin := fun _ _ words => do
  let n ← loopCount words
  setStatus 0
  if n > 0 then throw (.leave n)
  return 0

/-- Goes on with the next round of a loop. -/
def next : Builtin := fun _ _ words => do
  let n ← loopCount words
  setStatus 0
  if n > 0 then throw (.next n)
  return 0

/-- Sets the status that an argument spells, if there is one. -/
def takeStatus (words : List Text) : ShellM Unit := do
  match words with
  | [] => return
  | t :: _ => setStatus ((← checkedNumber t) % 256)

/-- Ends the shell. -/
def exit : Builtin := fun _ _ words => do
  takeStatus words
  throw .exit

/-- Leaves a function or a file of commands. -/
def back : Builtin := fun _ _ words => do
  takeStatus words
  throw .back

/-- Runs a script as part of another one. The status is that of its last command, if it has any. -/
def runPart (self : Evaluator) (isTested isShown : Bool) (script : Text) : ShellM Nat := do
  runWithin self isTested isShown script
  let status := (← get).status
  return if script.all fun c => c == ' ' || c == '\n' then 0 else status

/-- Runs its arguments as a script. -/
def eval : Builtin := fun self isTested words =>
  runPart self isTested false (List.intercalate [' '] words)

/-- Runs the commands in a file. A name without a slash is searched. -/
def source : Builtin := fun self isTested words => withLetters [] words fun o => do
  match o.operands with
  | [] => return 0
  | name :: _ => do
    let s ← get
    let path := if '/' ∈ name then some name else
      (Executable.candidates ((s.value? "PATH").getD []) name).find? fun path =>
        (s.world.store.readFile path).toOption.isSome
    match path with
    | none => fail (name ++ ": not found")
    | some path =>
      match ← scriptAt path with
      | none => fail ("cannot open " ++ path ++ ": No such file")
      | some script => do
        modify fun s => { s with speaker := some path }
        try runPart self isTested true script
        catch
          | .back => return (← get).status
          | i => throw i

end NodeClasses.Shell.Builtin
