import NodeClasses.Shell.Builtin.Variables
import NodeClasses.Shell.Format

/-!
# Utilities for words, variables and programs

They print their arguments or the variables that they see, or run a program with other variables.
-/

namespace NodeClasses.Shell
set_option autoImplicit false

open Text

/-- Does nothing and gives a status. -/
def idleWith (status : Nat) : Utility := fun _ _ _ => return status

/-- Prints its arguments between spaces. Backslashes are read only where that is asked for. -/
def echoWords : Utility := fun _ _ arguments => do
  let isOption (t : Text) : Bool := match t with
    | '-' :: c :: letters => (c :: letters).all fun l => ['n', 'e', 'E'].contains l
    | _ => false
  let letters := (arguments.takeWhile isOption).flatten
  let words := arguments.dropWhile isOption
  let readsEscapes := (letters.reverse.find? fun l => l == 'e' || l == 'E') == some 'e'
  let (t, isWhole) := if readsEscapes = true then Format.escapedWords words
    else (List.intercalate [' '] words, true)
  say (if isWhole && !letters.contains 'n' then t ++ ['\n'] else t)
  return 0

/-- Prints the working directory. -/
def printDirectory : Utility := fun _ _ _ => do
  say (((← store).here?.map Path.ofLocation).getD [] ++ ['\n'])
  return 0

/-- Prints the variables that it sees with their values. -/
def printVariables : ShellM Nat := do
  for (x, value) in (← get).exported do say (x ++ "=" ++ value ++ "\n")
  return 0

/-- Prints the values of variables that it sees. -/
def printEnvironment : Utility := fun _ name arguments =>
  withOptions [] name arguments 2 fun o => do
    if o.operands.isEmpty then printVariables
    else
      greatestStatus (fun x => do
        match (← get).exported.lookup x with
        | some value => do
          say (value ++ ['\n'])
          return 0
        | none => return 1) o.operands

/-- The words of a call. In front of the command there may be options, and a whole call may be the
argument of one. -/
def environmentCall : Nat → List Text → Except Text Settings
  | 0, words => .ok ⟨[], words⟩
  | n + 1, words =>
    match Settings.readFrom "iu:S:" true false words with
    | .error message => .error message
    | .ok o =>
      match o.value? 'S' with
      | none => .ok o
      | some line =>
        let inside := (pieces (fun c => c == ' ' || c == '\t') line).filter (!·.isEmpty)
        (environmentCall n (inside ++ o.operands)).map fun more =>
          ⟨o.given ++ more.given, more.operands⟩

/-- Declares the variables that arguments give values to. The other arguments are left. -/
def assignAll : List Text → ShellM (List Text)
  | [] => return []
  | t :: rest =>
    match Builtin.declaration t with
    | (_, none) => return t :: rest
    | (x, some v) => do
      modify fun s => { s with bindings := declare x (some ⟨some v, true, false⟩) s.bindings }
      assignAll rest

/-- Prints the variables that it sees, or runs a program with other ones. -/
def environment : Utility := fun launch name arguments => do
  match environmentCall (arguments.length + 1) arguments with
  | .error message => misuse name message 125
  | .ok o => do
    let dropped := o.given.filterMap fun g => if g.1 = 'u' then some g.2 else none
    modify fun s =>
      { s with
        bindings := s.bindings.filter fun v => !o.has 'i' && !dropped.contains v.1 }
    match ← assignAll o.operands with
    | [] => printVariables
    | command :: operands =>
      match ← launch (command :: operands) with
      | .ok status => return status
      | .error fault =>
        refuseWith (if fault = .missing then 127 else 126) name
          (shownName command ++ ": " ++ fault.reason)

end NodeClasses.Shell
