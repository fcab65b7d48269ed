import NodeClasses.Shell.Builtin.Table
import NodeClasses.Shell.Expansion
import NodeClasses.Shell.Utility.Table

/-!
# Processes

A process is a child that starts from exported variables alone. It runs a native program: a
utility, or the shell itself, which reads its script from a file, from an argument or from the
standard input.
-/

namespace NodeClasses.Shell
set_option autoImplicit false

open Text

/-- The names of the shell. -/
def shellNames : List Text := ["sh", "dash", "bash"]

/-- The path of the shell that runs scripts which name no interpreter. -/
def shellPath : Text := "/bin/sh"

/-- Where the shell looks for files if no search path is set. -/
def shellSearchPath : Text := "/usr/local/sbin:/usr/local/bin:/usr/sbin:/usr/bin:/sbin:/bin"

/-- How the shell is called. -/
structure ShellCall where
  options : List Char
  /-- Is the script an argument? -/
  isCommand : Bool
  /-- What follows the options. -/
  operands : List Text
  deriving DecidableEq, Repr

/-- Reads the options of a call of the shell, or names one that it does not know. -/
def ShellCall.read : List Text → ShellCall → Except Text ShellCall
  | [], c => .ok c
  | t :: rest, c =>
    match t with
    | ['-'] => .ok { c with operands := rest }
    | ['-', '-'] => .ok { c with operands := rest }
    | sign :: letters =>
      if sign = '-' ∨ sign = '+' then
        let named? := rest.head?.bind fun name => Builtin.optionNames.lookup name
        let wrong? := letters.find? fun l =>
          !("cl".toList.contains l || optionLetters.contains l || (l == 'o' && named?.isSome))
        match wrong? with
        | some letter =>
          let name : Text := if letter = 'o' then ' ' :: rest.headD [] else []
          .error ("Illegal option -" ++ [letter] ++ name)
        | none =>
          let change (set : List Char) : ShellCall :=
            let others := c.options.filter fun l => !set.contains l
            let options := if sign = '-' then others ++ set else others
            { c with options := options, isCommand := c.isCommand || letters.contains 'c' }
          let set := letters.filter fun l => !"clo".toList.contains l
          match rest with
          | [] => .ok (change set)
          | name :: more =>
            if letters.contains 'o' then read more (change (named?.toList ++ set))
            else read (name :: more) (change set)
      else .ok { c with operands := t :: rest }
    | [] => .ok { c with operands := t :: rest }

/-- Makes the state that of a new process. -/
def renew (s : State) : State :=
  { s with
    bindings := s.exported.map fun (name, t) => (name, ⟨some t, true, false⟩)
    arguments := []
    functions := []
    tracked := []
    options := []
    status := 0
    line := 0
    reached := 0
    speaker := none
    onExit := none
    loops := 0
    frames := []
    latest := none
    lost := none }

/-- The path by which a shell that starts knows the working directory: the one that it is told, if
it is right. -/
def startDirectory : ShellM Text := do
  let s ← get
  let t := s.world.store
  let told := (s.value? "PWD").filter fun path =>
    Path.isAbsolute path && Builtin.leadsHere t path
  match told, t.here? with
  | some path, _ => return path
  | none, some here => return Path.ofLocation here
  | none, none => do
    warn ("getcwd() failed: " ++ Fault.notFound.reason)
    return []

/-- Sets the variables that a shell starts with in a directory. -/
def startVariables (s : State) (directory : Text) : State :=
  let own (name value : Text) (isExported : Bool) (vs : List (Text × Variable)) :
      List (Text × Variable) :=
    declare name (some ⟨some value, isExported, false⟩) vs
  let named := s.bindings.filter fun v => isName v.1
  let withPath := if (s.value? searchPathName).isSome then named
    else own searchPathName shellSearchPath false named
  { s with
    directory := directory
    bindings := own "PS4" "+ " false <| own "PWD" directory true <|
      own "IFS" [' ', '\t', '\n'] false withPath }

/-- The shell as a program. -/
def shellProgram (self : Evaluator) : Utility := fun _ name words => do
  modify fun s => { s with name := name }
  let directory ← startDirectory
  modify fun s => startVariables s directory
  let run (c : ShellCall) (name : Text) (arguments : List Text) (isShown : Bool) (script : Text) :
      ShellM Nat := do
    modify fun s => { s with name := name, arguments := arguments, options := c.options, line := 1 }
    toExit self (runScript self false isShown script)
    return (← get).status
  let refuse (message : Text) : ShellM Nat := do
    warn message
    return 2
  match ShellCall.read words ⟨[], false, []⟩ with
  | .error message => refuse message
  | .ok c =>
    if c.isCommand = true then
      match c.operands with
      | [] => refuse "-c requires an argument"
      | [script] => run c name [] false script
      | script :: name :: arguments => run c name arguments false script
    else
      match c.operands with
      | path :: arguments =>
        if c.options.contains 's' then do
          let script ← receive 0 id
          run c name (path :: arguments) true script
        else
          match ← scriptAt path with
          | none => refuse ("cannot open " ++ path ++ ": No such file")
          | some script => run c path arguments true script
      | [] => do
        let script ← receive 0 id
        run { c with options := 's' :: c.options } name [] true script

/-- Starts a native program as a child. The result is its status. -/
def start (self : Evaluator) (launch : Launcher) (e : Execution) : ShellM Nat := do
  let process ← newProcess
  fork do
    modify fun s => { renew s with process := process }
    let name := e.words.headD []
    let status ←
      if shellNames.contains e.program then shellProgram self launch name e.words.tail
      else
        match utilities.lookup e.program with
        | some utility => do
          let status ← utility launch name e.words.tail
          statusAfterLoss name status
        | none => pure 127
    setStatus status

/-- The paths at which a file of the given name may be found. -/
def pathsTo (s : State) (name : Text) : List Text :=
  if '/' ∈ name then [name]
  else Executable.candidates ((s.value? "PATH").getD Executable.defaultSearchPath) name

/-- What running a file comes to. A file in no known format is a script for the shell, and paths
that are too long are passed over. -/
def execution (s : State) (words : List Text) : Except StartFault Execution :=
  let t := s.world.store
  let name := words.headD []
  let isShort (path : Text) : Bool := !(t.locate path matches .error .nameTooLong)
  match Executable.searchAmong t ((pathsTo s name).filter isShort) name words with
  | .error .noFormat =>
    let isScript (path : Text) : Bool := match Executable.load t path words with
      | .error .noFormat => true
      | _ => false
    match (pathsTo s name).find? isScript with
    | none => .error .noFormat
    | some path => Executable.load t shellPath (shellPath :: path :: words.tail)
  | other => other

/-- Runs files as children that are nested at most as deep as given. -/
def launcher (self : Evaluator) : Nat → Launcher
  | 0, _ => throw .exhausted
  | n + 1, words => do
    match execution (← get) words with
    | .error fault => return .error fault
    | .ok e => return .ok (← start self (launcher self n) e)

/-- So deep may utilities start other ones. -/
def launchLimit : Nat := 64

/-- Runs a file as a child of the shell, which hands its variables on in an order of its own. -/
def launch (self : Evaluator) : Launcher := fun words => do
  modify fun s =>
    { s with bindings := s.bindings.mergeSort fun a b => handingOrder a.1 ≤ handingOrder b.1 }
  launcher self launchLimit words

end NodeClasses.Shell
