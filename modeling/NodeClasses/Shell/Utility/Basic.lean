import NodeClasses.Executable
import NodeClasses.Shell.Quoting
import NodeClasses.Shell.State

/-!
# Utilities

A utility is a native program: it gets the name that it is called by and its arguments, and gives
a status. Options are letters, which may stand anywhere among the operands, up to a double dash.
-/

namespace NodeClasses.Shell
set_option autoImplicit false

open Text

/-- Runs a file with words, of which the first is the name that it is looked for by. -/
abbrev Launcher := List Text → ShellM (Except StartFault Nat)

/-- A native program. -/
abbrev Utility := Launcher → Text → List Text → ShellM Nat

/-- What follows a letter. -/
inductive OptionKind where
  | plain
  /-- An argument: what is left of the word, or the next word. -/
  | valued
  /-- Perhaps an argument: what is left of the word. -/
  | attached
  deriving DecidableEq, Repr

/-- What follows a letter, if it is among those given. One colon stands behind those with an
argument, and two behind those with an argument that can only be attached. -/
def kindIn? (letter : Char) : Text → Option OptionKind
  | [] => none
  | c :: rest =>
    if c = letter ∧ c ≠ ':' then
      match rest with
      | ':' :: ':' :: _ => some .attached
      | ':' :: _ => some .valued
      | _ => some .plain
    else kindIn? letter rest

/-- The options and the operands of a call. -/
structure Settings where
  /-- The letters that are given, each with its argument. -/
  given : List (Char × Text)
  operands : List Text
  deriving DecidableEq, Repr

namespace Settings

/-- Is the option given? -/
def has (o : Settings) (letter : Char) : Bool := o.given.any fun g => g.1 == letter

/-- The argument of an option, where the last one counts. -/
def value? (o : Settings) (letter : Char) : Option Text := o.given.reverse.lookup letter

/-- Reads the letters of an argument. What they leave open goes on with the next argument, if
there is one: its use is told by the second result. -/
def readLetters (known : Text) (next : Option Text) :
    Text → Except Text (List (Char × Text) × Bool)
  | [] => .ok ([], false)
  | c :: rest =>
    match kindIn? c known, rest, next with
    | none, _, _ => .error ("invalid option -- '" ++ [c] ++ "'")
    | some .plain, _, _ =>
      (readLetters known next rest).map fun (given, usesNext) => ((c, []) :: given, usesNext)
    | some .valued, [], none => .error ("option requires an argument -- '" ++ [c] ++ "'")
    | some .valued, [], some t => .ok ([(c, t)], true)
    | _, _, _ => .ok ([(c, rest)], false)

/-- The options and the operands among arguments, or the first thing that is wrong with them. An
argument that an option has used is left out, and operands may end the options. -/
def readFrom (known : Text) (endsAtOperand : Bool) : Bool → List Text → Except Text Settings
  | _, [] => .ok ⟨[], []⟩
  | true, _ :: rest => readFrom known endsAtOperand false rest
  | false, t :: rest =>
    match t with
    | ['-', '-'] => .ok ⟨[], rest⟩
    | '-' :: '-' :: name => .error ("unrecognized option '--" ++ name ++ "'")
    | '-' :: c :: letters =>
      match readLetters known rest.head? (c :: letters) with
      | .error message => .error message
      | .ok (given, usesNext) =>
        (readFrom known endsAtOperand usesNext rest).map fun o => ⟨given ++ o.given, o.operands⟩
    | _ =>
      if endsAtOperand = true then .ok ⟨[], t :: rest⟩
      else (readFrom known false false rest).map fun o => ⟨o.given, t :: o.operands⟩

end Settings

/-- Writes a complaint of a utility. -/
def complain (name message : Text) : ShellM Unit := emit 2 (name ++ ": " ++ message ++ "\n")

/-- Complains and gives a status. -/
def refuseWith (status : Nat) (name message : Text) : ShellM Nat := do
  complain name message
  return status

/-- A name as complaints show it. -/
def shownName (t : Text) : Text := Quoting.quoted t

/-- Complains about the arguments of a call. -/
def misuse (name message : Text) (status : Nat) : ShellM Nat := do
  complain name message
  emit 2 ("Try '" ++ name ++ " --help' for more information.\n")
  return status

/-- Runs a utility with its options read, or complains about them. -/
def withOptions (known name : Text) (arguments : List Text) (wrong : Nat)
    (run : Settings → ShellM Nat) : ShellM Nat :=
  match Settings.readFrom known false false arguments with
  | .error message => misuse name message wrong
  | .ok o => run o

/-- The status of a utility whose output may be lost. -/
def statusAfterLoss (name : Text) (status : Nat) : ShellM Nat := do
  match (← get).lost with
  | none => return status
  | some fault => refuseWith 1 name ("write error: " ++ fault.reason)

/-- The store of a run. -/
def store : ShellM Store := return (← get).world.store

/-- Puts a store in place of the one of the run. -/
def setStore (t : Store) : ShellM Unit :=
  modify fun s => { s with world := { s.world with store := t } }

/-- What can be read from a channel, which is taken from it. -/
def drain (place : Nat) : ShellM (Except Fault Text) := do
  let s ← get
  match s.world.unreadable? place with
  | some fault => return .error fault
  | none =>
    let t := s.world.remaining place
    set { s with world := s.world.advance place t.length }
    return .ok t

/-- The text that a path leads to. A dash stands for the standard input. -/
def inputText (path : Text) : ShellM (Except Fault Text) := do
  if path = "-" then
    match (← get).descriptors.lookup 0 with
    | none => return .error .badDescriptor
    | some place => drain place
  else
    match ← openPath .read path with
    | .error fault => return .error fault
    | .ok place => drain place

/-- Writes a text to a path. -/
def outputText (mode : Mode) (path t : Text) : ShellM (Except Fault Unit) := do
  match ← openPath mode path with
  | .error fault => return .error fault
  | .ok place => do
    let s ← get
    match s.world.unwritable? place with
    | some fault => return if t.isEmpty then .ok () else .error fault
    | none => do
      set { s with world := s.world.write place t }
      return .ok ()

/-- Runs an action for each of some values. The status is the greatest one. -/
def greatestStatus {α : Type} (action : α → ShellM Nat) : List α → ShellM Nat
  | [] => return 0
  | a :: rest => do
    let status ← action a
    return max status (← greatestStatus action rest)

/-- The complaint about a path, with quotes around a name that needs them. -/
def pathFault (path : Text) (fault : Fault) : Text :=
  Quoting.quotedIfNeeded path ++ ": " ++ fault.reason

/-- Gives each input text to an action, with complaints about those that cannot be read. Without
paths the standard input is read. -/
def eachInput (name : Text) (paths : List Text) (wrong : Nat) (complaint : Text → Fault → Text)
    (action : Text → Text → ShellM Nat) : ShellM Nat :=
  greatestStatus (fun path => do
    match ← inputText path with
    | .error fault => refuseWith wrong name (complaint path fault)
    | .ok t => action path t) (if paths.isEmpty then [['-']] else paths)

end NodeClasses.Shell
