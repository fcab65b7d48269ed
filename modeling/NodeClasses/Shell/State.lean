import NodeClasses.Shell.Field
import NodeClasses.Shell.Syntax
import NodeClasses.Store.Locate
import NodeClasses.Streams

/-!
# The state of a shell

A shell has a world, which it shares with the processes that it starts, and a state of its own:
what its descriptors lead to, variables, functions and options. A child gets a copy of that state,
so of all that it changes only the world is left when it ends: `fork`.
-/

namespace NodeClasses.Shell
set_option autoImplicit false

open Text

/-- What may be done through a channel. -/
structure Access where
  reads : Bool
  writes : Bool
  /-- Is all that is written put behind the text that is there? -/
  atEnd : Bool
  deriving DecidableEq, Repr

/-- What may be done with a file that is opened in some way. -/
def Access.ofMode : Mode → Access
  | .read => ⟨true, false, false⟩
  | .overwrite | .clobber => ⟨false, true, false⟩
  | .extend => ⟨false, true, true⟩
  | .both => ⟨true, true, false⟩

/-- What stands in a store without being a file. -/
inductive Device where
  /-- It takes everything and gives nothing. -/
  | null
  /-- It takes everything and gives null characters without end. -/
  | zero
  /-- It takes nothing and gives null characters without end. -/
  | full
  deriving DecidableEq, Repr

/-- Where a descriptor leads. -/
inductive Channel where
  /-- To the output stream of the run. -/
  | out
  /-- To its stream of complaints. -/
  | err
  | device (kind : Device) (access : Access)
  /-- To the directory with the given number, which nobody can read as a text. -/
  | directory (number : Nat)
  /-- To a place in the file with the given number. -/
  | file (number : Nat) (position : Nat) (access : Access)
  /-- From a text that is still to be read. -/
  | source (t : Text)
  /-- To a text that is collected. -/
  | sink (t : Text)
  deriving DecidableEq, Repr

/-- What processes share. -/
structure World where
  store : Store
  /-- The channels that were ever opened. -/
  channels : List Channel
  /-- What is printed so far. -/
  printed : Streams
  /-- How many processes were started. -/
  started : Nat

/-- A variable, which may be declared without a value. -/
structure Variable where
  value : Option Text
  /-- Do processes that are started see it? -/
  isExported : Bool
  /-- May it not be changed? -/
  isFixed : Bool
  deriving DecidableEq, Repr

/-- The letters of the options, in the order in which a shell shows those that are set. -/
def optionLetters : List Char := "uaCvxsnfe".toList

/-- The state of a shell. -/
structure State where
  world : World
  /-- The channels of descriptors, by their place among all channels. -/
  descriptors : List (Nat × Nat)
  bindings : List (Text × Variable)
  /-- The name by which the shell or its script is called. -/
  name : Text
  arguments : List Text
  functions : List (Text × Command)
  /-- The paths at which commands were found. -/
  tracked : List (Text × Text)
  /-- The letters of the options that are set. -/
  options : List Char
  /-- The status of the last command. -/
  status : Nat
  /-- The status of the last command whose output became part of a word. -/
  outputStatus : Option Nat
  /-- The line of the current command. -/
  line : Nat
  /-- The line up to which the script is read. -/
  reached : Nat
  /-- The command of the shell itself that is at work, for messages. -/
  speaker : Option Text
  /-- What is run at the end. -/
  onExit : Option Text
  /-- How many loops are around the current command. -/
  loops : Nat
  /-- The variables behind the local ones of each function that is being called. -/
  frames : List (List (Text × Option Variable))
  /-- The number by which the shell calls itself. -/
  process : Nat
  /-- The process that was started last in the background, and its status. -/
  latest : Option (Nat × Nat)
  /-- The path of the working directory, as it was gone. -/
  directory : Text
  /-- Why output of the command at work is lost, if it is. -/
  lost : Option Fault

/-- Why commands are left before their end. -/
inductive Interrupt where
  /-- That many loops are left. -/
  | leave (loops : Nat)
  /-- That many loops are left but for the last, which goes on. -/
  | next (loops : Nat)
  /-- A function or a file of commands is left. -/
  | back
  /-- The shell ends. -/
  | exit
  /-- The shell ends, unless a command of its own takes the blame. -/
  | error
  /-- A signal ends the shell. -/
  | killed
  /-- Another program has taken the place of the shell and has ended. -/
  | replaced
  /-- There is no depth left for the run. -/
  | exhausted
  deriving DecidableEq, Repr

/-- What runs in a shell. -/
abbrev ShellM (α : Type) := ExceptT Interrupt (StateM State) α

/-- How commands are run and words are expanded. -/
structure Evaluator where
  /-- Runs a command, of which the status may be tested. -/
  run : Bool → Command → ShellM Unit
  expand : Word → ShellM (List Glyph)

/-- A text with another one written into it from a position on. -/
def splice (old new : Text) (position : Nat) : Text :=
  old.take position ++ List.replicate (position - old.length) '\x00' ++ new ++
    old.drop (position + new.length)

namespace World

/-- Opens a channel. The result is its place. -/
def connect (w : World) (c : Channel) : World × Nat :=
  ({ w with channels := w.channels ++ [c] }, w.channels.length)

/-- Why nothing can be written to a channel, if that is so. -/
def unwritable? (w : World) (place : Nat) : Option Fault :=
  match w.channels[place]? with
  | some .out | some .err | some (.sink _) => none
  | some (.device .full access) => some (if access.writes = true then .noSpace else .badDescriptor)
  | some (.device _ access) | some (.file _ _ access) =>
    if access.writes = true then none else some .badDescriptor
  | some (.directory _) | some (.source _) | none => some .badDescriptor

/-- Why nothing can be read from a channel, if that is so. -/
def unreadable? (w : World) (place : Nat) : Option Fault :=
  match w.channels[place]? with
  | some (.source _) => none
  | some (.directory _) => some .isDirectory
  | some (.device _ access) | some (.file _ _ access) =>
    if access.reads = true then none else some .badDescriptor
  | some .out | some .err | some (.sink _) | none => some .badDescriptor

/-- Writes to a channel. -/
def write (w : World) (place : Nat) (t : Text) : World :=
  match w.channels[place]? with
  | some .out => { w with printed := w.printed ++ ⟨t, []⟩ }
  | some .err => { w with printed := w.printed ++ ⟨[], t⟩ }
  | some (.sink u) => { w with channels := w.channels.set place (.sink (u ++ t)) }
  | some (.file number position access) =>
    if access.writes = true ∧ t ≠ [] then
      let old := w.store.content number
      let start := if access.atEnd = true then old.text.length else position
      { w with
        store :=
          w.store.setContent number ⟨splice old.text t start, old.mode, w.store.clock⟩
        channels := w.channels.set place (.file number (start + t.length) access) }
    else w
  | _ => w

/-- So many null characters are given where there is no end. -/
def endlessSize : Nat := 131072

/-- What can still be read from a channel. -/
def remaining (w : World) (place : Nat) : Text :=
  match w.channels[place]? with
  | some (.source t) => t
  | some (.device .zero access) | some (.device .full access) =>
    if access.reads = true then List.replicate endlessSize '\x00' else []
  | some (.file number position access) =>
    if access.reads = true then (w.store.content number).text.drop position else []
  | _ => []

/-- Moves a channel on behind some characters. -/
def advance (w : World) (place n : Nat) : World :=
  match w.channels[place]? with
  | some (.source t) => { w with channels := w.channels.set place (.source (t.drop n)) }
  | some (.file number position access) =>
    { w with channels := w.channels.set place (.file number (position + n) access) }
  | _ => w

end World

/-- The value of a variable. -/
def State.value? (s : State) (name : Text) : Option Text :=
  (s.bindings.lookup name).bind Variable.value

/-- The variables that processes see. -/
def State.exported (s : State) : List (Text × Text) :=
  s.bindings.filterMap fun (name, v) =>
    if v.isExported = true then v.value.map fun t => (name, t) else none

/-- The place of a variable among those that a shell hands on. -/
def handingOrder (name : Text) : Nat :=
  (name.foldl (fun n c => n + c.toNat) (16 * (name.headD ' ').toNat)) % 39

/-- The variable that holds the directories in which commands are looked for. -/
def searchPathName : Text := "PATH"

/-- A list of variables with one of them changed. -/
def declare (name : Text) (v : Option Variable) (vs : List (Text × Variable)) :
    List (Text × Variable) :=
  match v with
  | none => vs.filter fun p => p.1 != name
  | some v =>
    if (vs.lookup name).isSome then vs.map fun p => if p.1 = name then (name, v) else p
    else vs ++ [(name, v)]

/-- Why nothing can be written to a descriptor, if that is so. -/
def State.unwritable? (s : State) (descriptor : Nat) : Option Fault :=
  match s.descriptors.lookup descriptor with
  | none => some .badDescriptor
  | some place => s.world.unwritable? place

/-- Writes to a descriptor. It is kept in mind if that fails for the standard output. -/
def emit (descriptor : Nat) (t : Text) : ShellM Unit :=
  modify fun s =>
    match s.unwritable? descriptor, s.descriptors.lookup descriptor with
    | none, some place => { s with world := s.world.write place t }
    | fault?, _ =>
      if descriptor = 1 ∧ t ≠ [] then { s with lost := fault? } else s

/-- Writes to the standard output. -/
def say (t : Text) : ShellM Unit := emit 1 t

/-- Reads from a descriptor what `wanted` takes of what is left there. -/
def receive (descriptor : Nat) (wanted : Text → Text) : ShellM Text := do
  let s ← get
  match s.descriptors.lookup descriptor with
  | none => return []
  | some place =>
    let t := wanted (s.world.remaining place)
    set { s with world := s.world.advance place t.length }
    return t

/-- Reads a line with its end, or what is left. -/
def receiveLine (descriptor : Nat) : ShellM Text :=
  receive descriptor fun t =>
    match t.dropWhile fun c => c != '\n' with
    | [] => t
    | _ => (t.takeWhile fun c => c != '\n') ++ ['\n']

/-- The characters that end a field. -/
def separators : ShellM Text := return ((← get).value? "IFS").getD [' ', '\t', '\n']

/-- The character between fields that are joined. -/
def joiner : ShellM (Option Char) := return (← separators).head?

/-- The text of a word that is not split. -/
def plainText (self : Evaluator) (word : Word) : ShellM Text := do
  return Glyph.text (← joiner) (← self.expand word)

/-- Sets the status of the last command. -/
def setStatus (status : Nat) : ShellM Unit := modify fun s => { s with status := status }

/-- Writes a message with the name and the line of the shell. -/
def warn (message : Text) : ShellM Unit := do
  let s ← get
  let speaker : Text := match s.speaker with
    | none => []
    | some b => b ++ ": "
  emit 2 (s.name ++ ": " ++ ofNat s.line ++ ": " ++ speaker ++ message ++ "\n")

/-- Ends what the shell does with a message. -/
def fail {α : Type} (message : Text) : ShellM α := do
  warn message
  setStatus 2
  throw .error

/-- Is the option set? -/
def hasOption (letter : Char) : ShellM Bool := return (← get).options.contains letter

/-- The number that a text spells. -/
def numberOf (t : Text) : Nat := t.foldl (fun n c => 10 * n + (c.toNat - '0'.toNat)) 0

/-- The number that a text spells, which must be nothing but digits. -/
def checkedNumber (t : Text) : ShellM Nat := do
  if t.isEmpty || !t.all Char.isDigit then fail ("Illegal number: " ++ t)
  else return numberOf t

/-- Gives a variable a value. -/
def assign (name value : Text) : ShellM Unit := do
  let s ← get
  match s.bindings.lookup name with
  | some v =>
    if v.isFixed = true then fail (name ++ ": is read only")
    else
      let isExported := v.isExported || s.options.contains 'a'
      set { s with bindings := declare name (some ⟨some value, isExported, false⟩) s.bindings }
  | none =>
    let v : Variable := ⟨some value, s.options.contains 'a', false⟩
    set { s with bindings := declare name (some v) s.bindings }
  if name = searchPathName then modify fun s => { s with tracked := [] }

/-- Gives a variable a value that processes see. -/
def assignForAll (name value : Text) : ShellM Unit := do
  assign name value
  modify fun s => { s with bindings := declare name (some ⟨some value, true, false⟩) s.bindings }

/-- Takes a variable away. -/
def unassign (name : Text) : ShellM Unit := do
  let s ← get
  if ((s.bindings.lookup name).map Variable.isFixed).getD false then
    fail (name ++ ": is read only")
  else
    set { s with
      bindings := declare name none s.bindings
      tracked := if name = searchPathName then [] else s.tracked }

/-- Opens a channel. The result is its place. -/
def connect (c : Channel) : ShellM Nat := do
  let s ← get
  let (w, place) := s.world.connect c
  set { s with world := w }
  return place

/-- Lets a descriptor lead to the channel at a place. -/
def attach (descriptor place : Nat) : ShellM Unit :=
  modify fun s =>
    { s with
      descriptors := (descriptor, place) :: s.descriptors.filter fun d => d.1 != descriptor }

/-- Lets a descriptor lead to no channel. -/
def detach (descriptor : Nat) : ShellM Unit :=
  modify fun s => { s with descriptors := s.descriptors.filter fun d => d.1 != descriptor }

/-- The directory with a link for each descriptor. -/
def descriptorDirectory : Location := ["proc", "self", "fd"]

/-- The descriptor that a location stands for. -/
def descriptorAt? (here : Location) : Option Nat :=
  let name := here.getLastD []
  let n := numberOf name
  if here.dropLast = descriptorDirectory ∧ name = ofNat n then some n else none

/-- The locations of the devices. -/
def devices : List (Location × Device) :=
  [([ "dev", "null"], .null), ([ "dev", "zero"], .zero), ([ "dev", "full"], .full)]

/-- The device at a location. -/
def deviceAt? (here : Location) : Option Device := devices.lookup here

/-- The terminal, which no process of a run has. -/
def terminal : Location := ["dev", "tty"]

/-- What a channel is, at the location of its descriptor. A channel between processes is a file
without text. -/
def Channel.slot (t : Store) : Channel → Slot
  | .device kind _ =>
    ((devices.find? fun d => d.2 == kind).map fun d => .link (Path.ofLocation d.1)).getD
      (.file Store.rootNumber)
  | .directory number =>
    ((t.locationOf? number).map fun here => .link (Path.ofLocation here)).getD (.directory number)
  | .file number _ _ =>
    ((t.slots.find? fun p => p.2 == .file number).map fun p => .link (Path.ofLocation p.1)).getD
      (.file number)
  | .out | .err | .source _ | .sink _ => .file Store.rootNumber

/-- The store as a process sees it, with what its descriptors lead to. -/
def State.view (s : State) : Store :=
  let t := s.world.store
  let seen := s.descriptors.filterMap fun (descriptor, place) =>
    (s.world.channels[place]?).map fun channel =>
      (descriptorDirectory ++ [ofNat descriptor], channel.slot t)
  { t with slots := seen ++ t.slots }

/-- Is there something at the location that is no regular file, though it may be read? -/
def isSpecial (here : Location) : Bool :=
  (deviceAt? here).isSome || here == terminal || (descriptorAt? here).isSome

/-- Opens a file that is there, which may lose its text. -/
def openFile (mode : Mode) (number : Nat) : ShellM Nat := do
  if mode = .overwrite ∨ mode = .clobber then
    modify fun s =>
      let t := s.world.store
      let emptied := t.setContent number ⟨[], (t.content number).mode, t.clock⟩
      { s with world := { s.world with store := emptied } }
  connect (.file number 0 (.ofMode mode))

/-- Opens once more what the channel at a place leads to. -/
def reopen (mode : Mode) (place : Nat) : ShellM (Except Fault Nat) := do
  match (← get).world.channels[place]? with
  | some (.file number _ _) => return .ok (← openFile mode number)
  | some (.device kind _) => return .ok (← connect (.device kind (.ofMode mode)))
  | some (.directory _) => return if mode = .read then .ok place else .error .isDirectory
  | _ => return .ok place

/-- Opens what a path leads to. The result is the place of the channel. -/
def openPath (mode : Mode) (path : Text) : ShellM (Except Fault Nat) := do
  let s ← get
  let t := s.world.store
  match if mode = .read then t.locate path else t.locateFile path with
  | .error fault => return .error fault
  | .ok here =>
    match descriptorAt? here, deviceAt? here with
    | some descriptor, _ =>
      match s.descriptors.lookup descriptor with
      | some place => reopen mode place
      | none => return .error .notFound
    | none, some kind => return .ok (← connect (.device kind (.ofMode mode)))
    | none, none =>
      if here = terminal then return .error .noDevice
      else
        match t.slot? here with
        | some (.file number) => return .ok (← openFile mode number)
        | some (.directory number) =>
          if mode = .read then return .ok (← connect (.directory number))
          else return .error .isDirectory
        | _ =>
          if mode = .read then return .error .notFound
          else
            let made := t.put here (.file [] Store.newFileMode)
            modify fun s => { s with world := { s.world with store := made } }
            match made.slot? here with
            | some (.file number) => return .ok (← openFile mode number)
            | _ => return .error .notFound

/-- The number of the first process. -/
def firstProcess : Nat := 4321

/-- Counts one more process. The result is its number. -/
def newProcess : ShellM Nat := do
  let n := (← get).world.started
  modify fun s => { s with world := { s.world with started := n + 1 } }
  return firstProcess + n

/-- Runs a child with a copy of the state. The result is its status. -/
def fork (child : ShellM Unit) : ShellM Nat := do
  let parent ← get
  let ending ← try
      child
      pure none
    catch i => pure (some i)
  let after ← get
  let store : Store :=
    { after.world.store with workingDirectory := parent.world.store.workingDirectory }
  set { parent with world := { after.world with store := store } }
  if ending = some .exhausted then throw .exhausted
  return after.status

/-- Runs a child and collects what it prints. -/
def collect (child : ShellM Unit) : ShellM (Text × Nat) := do
  let place ← connect (.sink [])
  let status ← fork do
    attach 1 place
    child
  match (← get).world.channels[place]? with
  | some (.sink t) => return (t, status)
  | _ => return ([], status)

/-- Runs an action and then gives the descriptors back what they led to. -/
def keepingDescriptors {α : Type} (action : ShellM α) : ShellM α := do
  let before := (← get).descriptors
  try
    let a ← action
    modify fun s => { s with descriptors := before }
    return a
  catch i =>
    modify fun s => { s with descriptors := before }
    throw i

end NodeClasses.Shell
