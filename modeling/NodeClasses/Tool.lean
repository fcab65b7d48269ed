import NodeClasses.Shell.Run

/-!
# Tools

A tool is anything that is run with arguments and may change the store. The tools that a store
itself holds are executable files. One that cannot be started changes and prints nothing:
`ofName_of_notStarted`.
-/

namespace NodeClasses
set_option autoImplicit false

open Text

/-- How a run of a tool ended. -/
inductive Outcome where
  | succeeded
  /-- The tool ran and gave a status other than zero. -/
  | failed (status : Nat)
  /-- The tool could not be started. -/
  | notStarted
  /-- The tool went deeper or longer than a run may. -/
  | unfinished
  deriving DecidableEq, Repr

/-- The outcome that a status tells. -/
def Outcome.ofStatus (status : Nat) : Outcome := if status = 0 then .succeeded else .failed status

/-- The outcome of a run that was started. -/
def Outcome.ofEnding : Except Shell.Interrupt Nat → Outcome
  | .ok status => .ofStatus status
  | .error _ => .unfinished

theorem Outcome.ofEnding_ne_notStarted (ending : Except Shell.Interrupt Nat) :
    ofEnding ending ≠ .notStarted := by
  cases ending with
  | error _ => simp [ofEnding]
  | ok status => by_cases h : status = 0 <;> simp [ofEnding, ofStatus, h]

/-- What a run of a tool leaves behind, on files of some kind. -/
structure Tool.Result (σ : Type) where
  store : σ
  printed : Streams
  outcome : Outcome
  deriving DecidableEq, Repr

/-- Anything that is run with arguments on files of some kind. -/
abbrev Tool.On (σ : Type) := List Text → σ → Tool.Result σ

/-- Anything that is run with arguments on a store. -/
abbrev Tool := Tool.On Store

namespace Tool

/-- The state from which a process with the given variables starts. Its standard input is empty. -/
def initial (bindings : List (Text × Text)) (s : Store) : Shell.State where
  world := ⟨s, [.out, .err, .device .null (.ofMode .read)], .silent, 0⟩
  descriptors := [(0, 2), (1, 0), (2, 1)]
  bindings := bindings.map fun (name, t) => (encode name, ⟨some (encode t), true, false⟩)
  name := []
  arguments := []
  functions := []
  tracked := []
  options := []
  status := 0
  outputStatus := none
  line := 0
  reached := 0
  speaker := none
  onExit := none
  loops := 0
  frames := []
  process := Shell.firstProcess - 1
  latest := none
  directory := []
  lost := none

/-- Runs a native program with the given variables. -/
def execute (bindings : List (Text × Text)) (e : Execution) (s : Store) : Result Store :=
  let self := Shell.evaluator Shell.depthLimit
  let ending := (Shell.start self (Shell.launch self) e).run.run (initial bindings s)
  ⟨ending.2.world.store, ending.2.world.printed.decode, .ofEnding ending.1⟩

/-- The variable that holds the search path. -/
def searchPathVariable : Text := "PATH"

/-- The native program behind the tool of the given name: a path if it has a slash, else what the
search path has of that name. -/
def execution (bindings : List (Text × Text)) (name : Text) (arguments : List Text) (s : Store) :
    Except StartFault Execution :=
  Executable.search s ((bindings.lookup searchPathVariable).map encode) (encode name)
    ((name :: arguments).map encode)

/-- Runs the tool of the given name. -/
def ofName (bindings : List (Text × Text)) (name : Text) : Tool := fun arguments s =>
  match execution bindings name arguments s with
  | .error _ => ⟨s, .silent, .notStarted⟩
  | .ok e => execute bindings e s

/-- The paths at which a search path has a file of the given name, in order. -/
def candidates (searchPath name : Text) : List Text :=
  (pieces (· == ':') searchPath).map fun dir => Path.join dir name

/-- The first path on the search path that holds an executable file of the given name. -/
def find? (s : Store) (searchPath name : Text) : Option Text :=
  (candidates searchPath name).find? fun path => s.isExecutable (encode path)

theorem execute_started (bindings : List (Text × Text)) (e : Execution) (s : Store) :
    (execute bindings e s).outcome ≠ .notStarted :=
  Outcome.ofEnding_ne_notStarted _

/-- A tool that cannot be started leaves the store as it is and prints nothing. -/
theorem ofName_of_notStarted {bindings : List (Text × Text)} {name : Text}
    {arguments : List Text} {s : Store}
    (h : (ofName bindings name arguments s).outcome = .notStarted) :
    ofName bindings name arguments s = ⟨s, .silent, .notStarted⟩ := by
  unfold ofName at h ⊢
  split at h
  · rfl
  · exact absurd h (execute_started bindings _ s)

end Tool

end NodeClasses
