import NodeClasses.Shell.Reader.Command
import NodeClasses.Shell.State

/-!
# Running scripts

A script is run line by line, and its lines are shown as they are read, where a shell is told to.
Whatever ends a shell, what it was told to do on exit comes last: `toExit`.
-/

namespace NodeClasses.Shell
set_option autoImplicit false

/-- Shows lines that are read together, if the shell is told to. -/
def showLines (lines : List Text) : ShellM Unit := do
  if ← hasOption 'v' then emit 2 lines.flatten

/-- Runs lines, at most the given number. The statuses of their commands may be tested. The list
holds what is still to be shown. -/
def runLines (self : Evaluator) (isTested : Bool) : Nat → List Text → Cursor → ShellM Unit
  | 0, _, _ => throw .exhausted
  | n + 1, lines, here => do
    match Reader.line?.run here with
    | .error e => do
      showLines (lines.take (e.line + 1 - here.line))
      modify fun s => { s with line := e.line }
      fail ("Syntax error: " ++ e.message)
    | .ok (none, _) => return
    | .ok (some c, after) => do
      let taken := if after.rest.isEmpty then lines.length else after.line - here.line
      showLines (lines.take taken)
      modify fun s => { s with reached := after.line }
      self.run isTested c
      runLines self isTested n (lines.drop taken) after

/-- Runs a script. Its lines may be shown. -/
def runScript (self : Evaluator) (isTested isShown : Bool) (script : Text) : ShellM Unit :=
  let lines := if isShown = true then Text.endedLines script else []
  runLines self isTested (script.length + 2) lines (Cursor.start script)

/-- The script at a path. A directory holds an empty one. -/
def scriptAt (path : Text) : ShellM (Option Text) := do
  match ← openPath .read path with
  | .error _ => return none
  | .ok place => do
    let script := (← get).world.remaining place
    modify fun s => { s with world := s.world.advance place script.length }
    return some script

/-- Runs a script as part of another one. -/
def runWithin (self : Evaluator) (isTested isShown : Bool) (script : Text) : ShellM Unit := do
  let reached := (← get).reached
  runScript self isTested isShown script
  modify fun s => { s with reached := reached }

/-- Runs what is to be done on exit. The status stays, unless an exit on the way sets another. -/
def onExit (self : Evaluator) : ShellM Unit := do
  let s ← get
  match s.onExit with
  | none => return
  | some script => do
    set { s with onExit := none }
    let isOwn ← try
        runScript self false false script
        pure false
      catch
        | .exhausted => throw .exhausted
        | .killed => throw .killed
        | .exit => pure true
        | _ => pure false
    unless isOwn do setStatus s.status

/-- Runs all of a shell up to its exit. What is to be done then is not done if a signal ends it, or
if another program has taken its place. -/
def toExit (self : Evaluator) (body : ShellM Unit) : ShellM Unit := do
  try body
  catch
    | .exhausted => throw .exhausted
    | .killed => throw .killed
    | .replaced => return
    | _ => pure ()
  onExit self

/-- Runs a command as a copy of the shell would, which has nothing to do on exit. -/
def asChild (self : Evaluator) (body : ShellM Unit) : ShellM Unit := do
  modify fun s => { s with onExit := none }
  toExit self body

end NodeClasses.Shell
