import NodeClasses.CommandLine

/-!
# The programs

The executable acts as the program whose name it has, and as the tree walker's under any other
name. It makes a draft of the call, does the writes of the draft, and reports the draft's result or
the write that failed. `CommandLine.run_eq_of_draft` says that a call on the disk itself comes to
the same. The files are left as they are generated: no other program can be started from here,
so the formatter that `CommandLine.runIn` looks for is left out.
-/

set_option autoImplicit false

namespace NodeClasses.Main

/-- The fault behind a failed write, as far as it is one of those with a wording of their own. -/
def fault? : IO.Error → Option Fault
  | .noFileOrDirectory _ _ _ => some .notFound
  | .inappropriateType _ code _ => some (if code = 20 then .notDirectory else .isDirectory)
  | .invalidArgument _ code _ => if code = 36 then some .nameTooLong else none
  | _ => none

/-- Writes a file. The result is what a failure is to be reported as. -/
def write (path text : Text) : IO (Option Report) := do
  let told (fault : Fault) : Report :=
    CommandLine.report (.error (.generation (.unwritable path fault)) : Except CommandError Unit)
  if '\x00' ∈ path then return some (told .nulInPath)
  try
    IO.FS.writeFile (String.ofList path) (String.ofList text)
    return none
  catch e =>
    match fault? e with
    | some fault => return some (told fault)
    | none => return some (CommandLine.failure (unwritableMessage path (toString e).toList))

/-- Does writes in order, up to the first that fails. The result is the report of that failure. -/
def perform : List (Text × Text) → IO (Option Report)
  | [] => return none
  | (path, text) :: rest => do
    match ← write path text with
    | some report => return some report
    | none => perform rest

/-- Ends a call with its report. -/
def finish (report : Report) : IO UInt32 := do
  (← IO.getStderr).putStr (String.ofList report.printed.err)
  return UInt32.ofNat report.exitCode

/-- Runs a call of a program. -/
def run (p : Program) (call : List Text) : IO UInt32 := do
  let (draft, report) := CommandLine.run p call none (⟨[]⟩ : Draft)
  match ← perform draft.writes with
  | some failure => finish failure
  | none => finish report

end NodeClasses.Main

/-- Runs the program that the executable is named for. -/
def main (arguments : List String) : IO UInt32 := do
  let name := ((← IO.appPath).fileStem.getD "").toList
  let program := (NodeClasses.Program.ofName? name).getD NodeClasses.Program.treeWalk
  NodeClasses.Main.run program (program.name :: arguments.map String.toList)
