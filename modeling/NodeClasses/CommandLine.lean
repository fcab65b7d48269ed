import NodeClasses.Catalog
import NodeClasses.Generation

/-!
# Command line

A program is called with its own name and then with exactly one argument that is no option: the
base name of the files that its table is written to. `run` tells how a call ends, and `runIn`
looks for a formatter first.
-/

namespace NodeClasses
set_option autoImplicit false

/-- Makes the job for an output name, unless its families are refused. -/
abbrev JobBuilder := Text → Except SchemaError Job

/-- A name to be called by and a table to generate. -/
structure Program where
  name : Text
  table : Table

namespace Program

/-- The job of a program: its table, under the output name. -/
def job (p : Program) : JobBuilder := fun output => .ok ⟨output, p.table⟩

/-- Generates the tree walker's syntax tree. -/
def treeWalk : Program := ⟨"astgen", Catalog.treeWalk⟩

/-- Generates the syntax tree behind the ANTLR parser. -/
def antlr : Program := ⟨"astgen-antlr", Catalog.antlr⟩

/-- The programs there are. -/
def all : List Program := [treeWalk, antlr]

/-- The program with the given name. -/
def ofName? (name : Text) : Option Program := all.find? fun p => p.name == name

end Program

/-- Why a call gave no files. -/
inductive CommandError where
  /-- The arguments are not those that the program takes. -/
  | usage (program : Text)
  /-- The job could not be run. -/
  | generation (e : GenerationError)
  deriving DecidableEq, Repr

/-- The wording of a command error. -/
def CommandError.message : CommandError → Text
  | .usage program => "Usage: " ++ program ++ " <output>"
  | .generation e => e.message

/-- How a call ends. -/
structure Report where
  exitCode : Nat
  /-- What is printed. -/
  printed : Streams
  deriving DecidableEq, Repr

namespace CommandLine

variable {σ : Type} [Disk σ]

/-- Is the argument an option? A dash alone is none. -/
def isOption (argument : Text) : Bool := argument.head? == some '-' && argument != "-"

/-- Ends the options, so that all later arguments are positional. -/
def optionsEnd : Text := "--"

/-- The positional arguments, if there is no option among the arguments. -/
def positionals : List Text → Option (List Text)
  | [] => some []
  | a :: rest =>
    if a = optionsEnd then some rest
    else if isOption a = true then none
    else (positionals rest).map (a :: ·)

/-- The one argument of a call, given the program's name and the arguments. -/
def output? (call : List Text) : Option Text :=
  match positionals call.tail with
  | some [output] => some output
  | _ => none

/-- Makes the job for an output name and runs it in the working directory. -/
def runJob (build : JobBuilder) (tool : Option (Tool.On σ)) (output : Text) (s : σ) :
    Generation.Result σ CommandError :=
  match build output with
  | .error e => ⟨s, .silent, .error (.generation (.schema e))⟩
  | .ok job =>
    let result := Generation.run [] tool [job] s
    ⟨result.store, result.printed, result.files.mapError .generation⟩

/-- Runs the job that a call asks for, under the given program name. -/
def generateWith (name : Text) (build : JobBuilder) (call : List Text)
    (tool : Option (Tool.On σ)) (s : σ) : Generation.Result σ CommandError :=
  match output? call with
  | none => ⟨s, .silent, .error (.usage name)⟩
  | some output => runJob build tool output s

/-- Runs the job of a program that a call asks for. -/
def generate (p : Program) (call : List Text) (tool : Option (Tool.On σ)) (s : σ) :
    Generation.Result σ CommandError :=
  generateWith p.name p.job call tool s

/-- The mark before the message of a generation error: bold, in bright red. -/
def errorMark : Text := "\x1b[38;5;9m\x1b[1mERROR\x1b[0m\x1b[0m"

/-- The report of a failure with the given message. -/
def failure (message : Text) : Report := ⟨1, ⟨[], errorMark ++ ": " ++ message ++ "\n"⟩⟩

/-- What is reported of a call. -/
def report {α : Type} : Except CommandError α → Report
  | .ok _ => ⟨0, .silent⟩
  | .error (.usage program) => ⟨1, ⟨[], (CommandError.usage program).message ++ "\n"⟩⟩
  | .error (.generation e) => failure e.message

/-- Runs a call and reports how it ended, after what the tool printed. -/
def run (p : Program) (call : List Text) (tool : Option (Tool.On σ)) (s : σ) : σ × Report :=
  let result := generate p call tool s
  let own := report result.files
  (result.store, { own with printed := result.printed ++ own.printed })

/-- Runs a call with the formatter that the environment leads to. -/
def runIn (env : Environment) (p : Program) (call : List Text) (s : Store) : Store × Report :=
  run p call ((Formatter.discover env s).map (Formatter.tool env)) s

theorem generateWith_of_some {build : JobBuilder} {call : List Text} {output : Text}
    (asked : output? call = some output) (name : Text) (tool : Option (Tool.On σ)) (s : σ) :
    generateWith name build call tool s = runJob build tool output s := by
  simp only [generateWith, asked]

theorem generateWith_of_none {call : List Text} (unasked : output? call = none) (name : Text)
    (build : JobBuilder) (tool : Option (Tool.On σ)) (s : σ) :
    generateWith name build call tool s = ⟨s, .silent, .error (.usage name)⟩ := by
  simp only [generateWith, unasked]

/-- A call without files reports code 1, and only such a call. -/
theorem report_exitCode {α : Type} (result : Except CommandError α) :
    (report result).exitCode = if result.toOption.isSome then 0 else 1 := by
  rcases result with (_ | _) | _ <;> rfl

end CommandLine

end NodeClasses
