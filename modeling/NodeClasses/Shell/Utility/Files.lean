import NodeClasses.Shell.Arithmetic
import NodeClasses.Shell.Utility.Basic
import NodeClasses.Store.Listing

/-!
# Utilities for files and directories

They make and remove what paths lead to, give it other names, and set its permission bits. A
question is answered by a line of the standard input, and by no where there is none.
-/

namespace NodeClasses.Shell
set_option autoImplicit false

open Text

/-- The path without slashes at its end. -/
def trimSlashes (path : Text) : Text :=
  match (path.reverse.dropWhile (· == '/')).reverse with
  | [] => path.take 1
  | t => t

/-- The last segment of a path. -/
def lastSegment (path : Text) : Text := ((Path.segments (trimSlashes path)).getLast?).getD []

/-- What a path leads to, and where that is. A link at its end may be the goal itself. -/
def entryBy (follows : Bool) (path : Text) : ShellM (Except Fault (Location × Entry)) := do
  let s := (← get).view
  match s.locateBy follows path with
  | .error fault => return .error fault
  | .ok here =>
    match s.get? here with
    | none => return .error .notFound
    | some e => return .ok (here, e)

/-- Where a file goes that gets a path: into a directory that is there. -/
def goalOf (source goal : Text) : ShellM Text := do
  match ← entryBy true goal with
  | .ok (_, .directory) => return Path.join goal (lastSegment source)
  | _ => return goal

/-- Asks a question. -/
def isAgreed (name question : Text) : ShellM Bool := do
  emit 2 (name ++ ": " ++ question ++ "? ")
  return ((← receiveLine 0).head?.map Char.toLower) == some 'y'

/-- Does the last of the options for it ask before a file is lost? -/
def Settings.asks (o : Settings) : Bool :=
  (o.given.reverse.find? fun g => g.1 == 'i' || g.1 == 'f' || g.1 == 'n').any fun g => g.1 == 'i'

/-- Removes what is at a location, and before it what is below, nested at most as deep as given. -/
def removeAt (name : Text) (asks : Bool) : Nat → Text → Location → ShellM Unit
  | 0, _, _ => return
  | n + 1, path, here => do
    let mayGo (question : Text) : ShellM Bool :=
      if asks = true then isAgreed name (question ++ shownName path) else return true
    let take : ShellM Unit := do setStore ((← store).erase here)
    match (← store).get? here with
    | none => return
    | some (.file t _) =>
      if ← mayGo (if t.isEmpty then "remove regular empty file " else "remove regular file ") then
        take
    | some (.link _) => if ← mayGo "remove symbolic link " then take
    | some .directory =>
      let names := ((← store).members here).map Prod.fst
      let isEntered ← if names.isEmpty then pure true else mayGo "descend into directory "
      if isEntered = true then
        for x in names do removeAt name asks n (Path.join path x) (here ++ [x])
        if ((← store).members here).isEmpty && (← mayGo "remove directory ") then take

/-- Removes files, and directories where that is asked for. -/
def removeFiles : Utility := fun _ name arguments =>
  withOptions "firR" name arguments 1 fun o => do
    if o.operands.isEmpty && !o.has 'f' then misuse name "missing operand" 1
    else
      greatestStatus (fun path => do
        let refuse (reason : Text) : ShellM Nat :=
          refuseWith 1 name ("cannot remove " ++ shownName path ++ ": " ++ reason)
        match ← entryBy false path with
        | .error fault => if o.has 'f' = true then return 0 else refuse fault.reason
        | .ok (here, e) =>
          if e = .directory ∧ (o.has 'r' || o.has 'R') = false then refuse "Is a directory"
          else if here = [] then
            refuseWith 1 name ("it is dangerous to operate recursively on " ++ shownName path)
          else do
            removeAt name o.asks ((← store).slots.length + 1) path here
            return 0) o.operands

/-- Makes directories, and those that lead to them where that is asked for. -/
def makeDirectory : Utility := fun _ name arguments =>
  withOptions "p" name arguments 1 fun o => do
    if o.operands.isEmpty then misuse name "missing operand" 1
    else
      greatestStatus (fun path => do
        let refuse (reason : Text) : ShellM Nat :=
          refuseWith 1 name ("cannot create directory " ++ shownName path ++ ": " ++ reason)
        let s ← store
        if o.has 'p' = true then
          match s.makeDirectories path with
          | .error fault => refuse fault.reason
          | .ok made => do
            setStore made
            return 0
        else
          match s.locateName (trimSlashes path) with
          | .error fault => refuse fault.reason
          | .ok here =>
            if (s.get? here).isSome then refuse "File exists"
            else do
              setStore (s.put here .directory)
              return 0) o.operands

/-- Prints the names of what lies in directories, or those of files. -/
def listNames : Utility := fun _ name arguments =>
  withOptions "1a" name arguments 2 fun o =>
    greatestStatus (fun path => do
      match ← entryBy true path with
      | .error fault =>
        refuseWith 2 name ("cannot access " ++ shownName path ++ ": " ++ fault.reason)
      | .ok (here, .directory) => do
        let names := ((← store).members here).map Prod.fst
        let shown := names.filter fun x => o.has 'a' || x.head? != some '.'
        say (ofLines (shown.mergeSort fun a b => precedes a b))
        return 0
      | .ok _ => do
        say (path ++ ['\n'])
        return 0) (if o.operands.isEmpty then [['.']] else o.operands)

/-- Makes files that are not there. -/
def touch : Utility := fun _ name arguments =>
  withOptions "acm" name arguments 1 fun o =>
    greatestStatus (fun path => do
      match ← if o.has 'c' = true then pure (.ok ()) else outputText .extend path [] with
      | .ok () | .error .isDirectory => return 0
      | .error fault =>
        refuseWith 1 name ("cannot touch " ++ shownName path ++ ": " ++ fault.reason)) o.operands

/-- The permission bits that new files and directories do not get. -/
def usualMask : Nat := 0o022

/-- The permission bits of those that a letter stands for: the owner, the group, the others or
all. -/
def bitsOf (who : Char) : Nat :=
  match who with
  | 'u' => 0o700
  | 'g' => 0o070
  | 'o' => 0o007
  | _ => 0o777

/-- The permission bits that a letter stands for, if it is one for reading, writing or running. -/
def permissionBits? (letter : Char) : Option Nat :=
  ([('r', 0o444), ('w', 0o222), ('x', 0o111)] : List (Char × Nat)).lookup letter

/-- Permission bits after a change like `u+x`. A change that does not say whose bits it is about
leaves those alone that new files do not get. -/
def changeMode (mode : Nat) (change : Text) : Option Nat :=
  let who := change.takeWhile fun c => ['u', 'g', 'o', 'a'].contains c
  let affected := if who.isEmpty then 0o777 ^^^ usualMask
    else who.foldl (fun bits c => bits ||| bitsOf c) 0
  match change.drop who.length with
  | sign :: letters => do
    let kinds ← letters.mapM permissionBits?
    let bits := kinds.foldl (· ||| ·) 0 &&& affected
    match sign with
    | '+' => some (mode ||| bits)
    | '-' => some (mode &&& (0o7777 ^^^ bits))
    | '=' => some ((mode &&& (0o7777 ^^^ affected)) ||| bits)
    | _ => none
  | [] => none

/-- Permission bits after changes with commas between them, or those that digits spell. -/
def modeAfter (mode : Nat) (t : Text) : Option Nat :=
  match t, Arithmetic.digits 8 0 t with
  | _ :: _, (n, []) => some n
  | _, _ =>
    (pieces (· == ',') t).foldl (fun m c => m.bind fun mode => changeMode mode c) (some mode)

/-- Changes the permission bits of files. -/
def changeModes : Utility := fun _ name arguments =>
  -- A change may start with a dash, so there are no options.
  match arguments with
  | [] => misuse name "missing operand" 1
  | [change] => misuse name ("missing operand after " ++ shownName change) 1
  | change :: paths =>
    if (modeAfter 0 change).isNone then misuse name ("invalid mode: " ++ shownName change) 1
    else
      greatestStatus (fun path => do
        match ← entryBy true path with
        | .error fault =>
          refuseWith 1 name ("cannot access " ++ shownName path ++ ": " ++ fault.reason)
        | .ok (here, _) => do
          let s ← store
          setStore (s.setModeAt here ((modeAfter (s.modeAt here) change).getD 0))
          return 0) paths

/-- Prints the last segment of a path, without an ending, or what is in front of that segment. -/
def printSegment (isLast : Bool) : Utility := fun _ name arguments =>
  match arguments with
  | [] => misuse name "missing operand" 1
  | path :: more => do
    let last := lastSegment path
    let bare := trimSlashes path
    let ending := more.headD []
    let isEnded := ending.isSuffixOf last && ending != last
    let dir := trimSlashes (bare.take (bare.length - last.length))
    say ((if isLast = true then if isEnded = true then last.take (last.length - ending.length)
      else last else if dir.isEmpty then ['.'] else dir) ++ ['\n'])
    return 0

/-- Says where links lead, or writes paths out from the root. -/
def readLink : Utility := fun _ name arguments =>
  withOptions "fn" name arguments 1 fun o => do
    if o.operands.isEmpty then misuse name "missing operand" 1
    else
      let ending : Text := if o.has 'n' = true then [] else ['\n']
      greatestStatus (fun path => do
        if o.has 'f' = true then
          match (← store).locate path with
          | .error _ => return 1
          | .ok here => do
            say (Path.ofLocation here ++ ending)
            return 0
        else
          match ← entryBy false path with
          | .ok (_, .link target) => do
            say (target ++ ending)
            return 0
          | _ => return 1) o.operands

end NodeClasses.Shell
