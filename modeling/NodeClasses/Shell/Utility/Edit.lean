import NodeClasses.Shell.Arithmetic
import NodeClasses.Shell.Regex
import NodeClasses.Shell.Utility.Basic

/-!
# Editing texts

A script of commands is applied to each line of the standard input, of files one after the other, or
of files in place. A command may select lines by their numbers or by what fits them.
-/

namespace NodeClasses.Shell
set_option autoImplicit false

open Text

namespace Edit

/-- Which lines a command is for. -/
inductive Address where
  | line (n : Nat)
  | last
  | fits (r : Regex)
  deriving Repr

/-- A part of a replacement. -/
inductive Piece where
  | text (t : Text)
  /-- What a group fitted, where group zero is the whole match. -/
  | group (n : Nat)
  deriving DecidableEq, Repr

/-- What is done to a line. -/
inductive Action where
  | delete
  | print
  | printNumber
  | quit
  | append (t : Text)
  | insert (t : Text)
  | change (t : Text)
  /-- Puts pieces in the place of a match, or of all of them. The line may be printed then. -/
  | substitute (r : Regex) (pieces : List Piece) (isGlobal isPrinted : Bool)
  deriving Repr

/-- A command: its addresses and its action. -/
structure Command where
  first : Option Address
  second : Option Address
  isNegated : Bool
  action : Action
  deriving Repr

/-- Takes characters from the front of a script. What is wrong comes with what was not read. -/
abbrev ScriptReader (α : Type) := StateT Text (Except (Text × Text)) α

namespace ScriptReader

/-- Refuses the script where it stands. -/
def refuse {α : Type} (message : Text) : ScriptReader α := do throw (message, ← get)

/-- Takes the next character. -/
def next? : ScriptReader (Option Char) := do
  let t ← get
  set t.tail
  return t.head?

/-- Takes characters as long as they satisfy `p`. -/
def takeWhile (p : Char → Bool) : ScriptReader Text := do
  let taken := (← get).takeWhile p
  modify fun t => t.drop taken.length
  return taken

/-- Skips blanks. -/
def skipBlanks : ScriptReader Unit := do
  let _ ← takeWhile fun c => c == ' ' || c == '\t'

/-- The text up to a delimiter, and what follows it. A backslash keeps a delimiter from ending the
text and is dropped there. -/
def upTo? (mark : Char) : Text → Option (Text × Text)
  | '\\' :: c :: rest =>
    (upTo? mark rest).map fun r => ((if c = mark then [c] else ['\\', c]) ++ r.1, r.2)
  | c :: rest =>
    if c = mark then some ([], rest) else (upTo? mark rest).map fun r => (c :: r.1, r.2)
  | [] => none

/-- Reads a text up to a delimiter, or refuses the script. -/
def delimited (mark : Char) (complaint : Text) : ScriptReader Text := do
  match upTo? mark (← get) with
  | none => refuse complaint
  | some (inside, rest) => do
    set rest
    return inside

/-- Reads an address, if there is one. -/
def address? (isExtended : Bool) : ScriptReader (Option Address) := do
  match (← get).head? with
  | some '/' => do
    let _ ← next?
    return some (.fits (.read isExtended (← delimited '/' "unterminated address regex")))
  | some '$' => do
    let _ ← next?
    return some .last
  | some c =>
    if c.isDigit = true then
      return some (.line (numberOf (← takeWhile Char.isDigit)))
    else return none
  | none => return none

/-- The pieces of a replacement. -/
def pieces : Text → List Piece
  | '\\' :: c :: rest =>
    let piece : Piece := if c.isDigit = true then .group (numberOf [c])
      else .text [if c = 'n' then '\n' else if c = 't' then '\t' else c]
    piece :: pieces rest
  | '&' :: rest => .group 0 :: pieces rest
  | c :: rest => .text [c] :: pieces rest
  | [] => []

/-- Reads a substitution. -/
def substitution (isExtended : Bool) : ScriptReader Action := do
  let complaint : Text := "unterminated \x60s' command"
  match ← next? with
  | none => refuse complaint
  | some mark => do
    let source ← delimited mark complaint
    let replacement ← delimited mark complaint
    let flags ← takeWhile fun c => c == 'g' || c == 'p'
    return .substitute (.read isExtended source) (pieces replacement) (flags.contains 'g')
      (flags.contains 'p')

/-- Reads the text of a command that adds a line: what is left of the line, or the next one behind
a backslash. -/
def addedLine : ScriptReader Text := do
  skipBlanks
  if (← get).take 2 = ['\\', '\n'] then modify fun t => t.drop 2
  let t ← takeWhile (· != '\n')
  return t ++ ['\n']

/-- Reads an action. -/
def action (isExtended : Bool) : ScriptReader Action := do
  match ← next? with
  | none => refuse "missing command"
  | some c =>
    match c with
    | 'd' => return .delete
    | 'p' => return .print
    | '=' => return .printNumber
    | 'q' => return .quit
    | 'a' => return .append (← addedLine)
    | 'i' => return .insert (← addedLine)
    | 'c' => return .change (← addedLine)
    | 's' => substitution isExtended
    | _ => refuse ("unknown command: \x60" ++ [c] ++ "'")

/-- Reads a command. -/
def command (isExtended : Bool) : ScriptReader Command := do
  let first ← address? isExtended
  let second ←
    if first.isSome ∧ (← get).head? = some ',' then do
      let _ ← next?
      address? isExtended
    else pure none
  skipBlanks
  let isNegated := (← get).head? == some '!'
  if isNegated = true then
    let _ ← next?
  return ⟨first, second, isNegated, ← action isExtended⟩

/-- Reads commands, at most the given number. -/
def commands (isExtended : Bool) : Nat → ScriptReader (List Command)
  | 0 => return []
  | n + 1 => do
    let _ ← takeWhile fun c => c.isWhitespace || c == ';'
    match ← get with
    | [] => return []
    | '#' :: _ => do
      let _ ← takeWhile (· != '\n')
      commands isExtended n
    | _ => do
      let c ← command isExtended
      skipBlanks
      unless (← get).head?.all fun c => c == ';' || c == '\n' || c == '#' do
        let _ ← next?
        refuse "extra characters after command"
      return c :: (← commands isExtended n)

end ScriptReader

/-- A line as editing has it. -/
structure Line where
  text : Text
  number : Nat
  isLast : Bool
  deriving DecidableEq, Repr

/-- How far editing has come. -/
structure State where
  output : Text
  /-- What is printed after the current line. -/
  queue : Text
  /-- The places of the commands whose ranges have begun. -/
  ranges : List Nat

/-- Does an address fit the line? -/
def Address.selects (l : Line) : Address → Bool
  | .line n => l.number == n
  | .last => l.isLast
  | .fits r => (r.find? 0 l.text).isSome

/-- Has a line number been reached? Other addresses are told by the given answer. -/
def Address.isReached (l : Line) (other : Bool) : Address → Bool
  | .line n => decide (n ≤ l.number)
  | _ => other

/-- Is the command at a place for the line? A range that has begun is kept. -/
def selects (c : Command) (place : Nat) (l : Line) (s : State) : Bool × State :=
  match c.first, c.second with
  | none, _ => (!c.isNegated, s)
  | some a, none => (a.selects l != c.isNegated, s)
  | some a, some b =>
    let others := s.ranges.filter (· != place)
    if s.ranges.contains place then
      let isOver := b.isReached l (b.selects l)
      (!c.isNegated, if isOver = true then { s with ranges := others } else s)
    else if a.selects l = true then
      let isShort := b.isReached l false
      (!c.isNegated, if isShort = true then s else { s with ranges := place :: others })
    else (c.isNegated, s)

/-- A text with pieces in the place of matches, at most so many. Was there any? -/
def replaced (r : Regex) (ps : List Piece) : Nat → Nat → Text → Text × Bool
  | 0, _, t => (t, false)
  | n + 1, position, t =>
    match r.find? position t with
    | none => (t, false)
    | some (front, fitted, there) =>
      let here := ps.flatMap fun p => match p with
        | .text u => u
        | .group 0 => fitted
        | .group k => (there.groups.lookup k).getD []
      match fitted, there.rest with
      | [], [] => (front ++ here, true)
      | [], c :: rest => (front ++ here ++ c :: (replaced r ps n (there.position + 1) rest).1, true)
      | _, rest => (front ++ here ++ (replaced r ps n there.position rest).1, true)

/-- What comes after an action: the next one, the end of the cycle, or the end of all of it. -/
inductive Next where
  | step
  | drop
  | quit
  deriving DecidableEq, Repr

/-- Does an action to a line. -/
def act (l : Line) (s : State) : Action → Line × State × Next
  | .delete => (l, s, .drop)
  | .print => (l, { s with output := s.output ++ l.text ++ ['\n'] }, .step)
  | .printNumber => (l, { s with output := s.output ++ ofNat l.number ++ ['\n'] }, .step)
  | .quit => (l, s, .quit)
  | .append t => (l, { s with queue := s.queue ++ t }, .step)
  | .insert t => (l, { s with output := s.output ++ t }, .step)
  | .change t => (l, { s with output := s.output ++ t }, .drop)
  | .substitute r ps isGlobal isPrinted =>
    let most := if isGlobal = true then l.text.length + 1 else 1
    let (t, isDone) := replaced r ps most 0 l.text
    let shown : Text := if isDone && isPrinted then t ++ ['\n'] else []
    ({ l with text := t }, { s with output := s.output ++ shown }, .step)

/-- Runs commands, each with its place, for a line. -/
def runLine : List (Command × Nat) → Line → State → Line × State × Next
  | [], l, s => (l, s, .step)
  | (c, place) :: rest, l, s =>
    match selects c place l s with
    | (false, s) => runLine rest l s
    | (true, s) =>
      match act l s c.action with
      | (l, s, .step) => runLine rest l s
      | ended => ended

/-- Runs commands for each line, and prints what is left of it unless lines are printed only on
demand. -/
def runAll (isQuiet : Bool) (cs : List (Command × Nat)) : List Line → State → State
  | [], s => s
  | l :: rest, s =>
    match runLine cs l s with
    | (l, s, next) =>
      let shown : Text := if isQuiet || next == .drop then [] else l.text ++ ['\n']
      let after := { s with output := s.output ++ shown ++ s.queue, queue := [] }
      if next = .quit then after else runAll isQuiet cs rest after

/-- A text with a script applied to its lines. The last line has an end only if it came with one. -/
def apply (isQuiet : Bool) (cs : List Command) (t : Text) : Text :=
  let ls := linesOf t
  let lines := ls.zipIdx.map fun (l, i) => ⟨l, i + 1, i + 1 == ls.length⟩
  let edited := (runAll isQuiet cs.zipIdx lines ⟨[], [], []⟩).output
  if t.getLast?.all (· == '\n') = true then edited else edited.dropLast

end Edit

/-- The parts of a script that options give. -/
def scriptParts (name : Text) : List (Char × Text) → ShellM (List Text)
  | [] => return []
  | (letter, t) :: rest => do
    let parts ← scriptParts name rest
    if letter = 'e' then return t :: parts
    else if letter = 'f' then
      match ← inputText t with
      | .ok script => return script :: parts
      | .error fault => do
        complain name ("couldn't open file " ++ t ++ ": " ++ fault.reason)
        return parts
    else return parts

/-- Edits texts: the standard input, the texts of files one after the other, or files in place. -/
def edit : Utility := fun _ name arguments =>
  withOptions "nErsi::e:f:" name arguments 1 fun o => do
    let given ← scriptParts name o.given
    let parts := if given.isEmpty then o.operands.take 1 else given
    let paths := if given.isEmpty then o.operands.drop 1 else o.operands
    let script := List.intercalate ['\n'] parts
    match (Edit.ScriptReader.commands (o.has 'E' || o.has 'r') (script.length + 1)).run' script with
    | .error (message, left) =>
      refuseWith 1 name ("-e expression #1, char " ++ ofNat (script.length - left.length) ++ ": " ++
        message)
    | .ok commands =>
      let edited := Edit.apply (o.has 'n') commands
      let complaint (path : Text) (fault : Fault) : Text :=
        "can't read " ++ path ++ ": " ++ fault.reason
      match o.value? 'i' with
      | none => do
        let texts ← (if paths.isEmpty then [['-']] else paths).mapM inputText
        let status ← greatestStatus (fun p => do
          match p.2 with
          | .ok _ => return 0
          | .error fault => refuseWith 2 name (complaint p.1 fault)) (paths.zip texts)
        say (edited (texts.flatMap fun t => t.toOption.getD []))
        return status
      | some ending =>
        greatestStatus (fun path => do
          let s ← store
          match s.readFile path, s.locateName path with
          | .ok (t, mode), .ok here => do
            let kept := match ending, s.locateName (path ++ ending) with
              | _ :: _, .ok aside => s.rename here aside
              | _, _ => s.erase here
            setStore (kept.put here (.file (edited t) mode))
            return 0
          | .error fault, _ | _, .error fault => refuseWith 2 name (complaint path fault)) paths

end NodeClasses.Shell
