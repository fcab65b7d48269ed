import NodeClasses.Shell.Utility.Files

/-!
# Copying, moving and linking

Files and directories get another path, or one more.
-/

namespace NodeClasses.Shell
set_option autoImplicit false

open Text

/-- Does the same file have both locations, or does the same link? -/
def isOne (s : Store) (here there : Location) : Bool := here == there || s.isSame here there

/-- May what is at a location be lost? That may have to be asked, or be forbidden. -/
def mayReplace (name : Text) (o : Settings) (goal : Text) (there : Location) : ShellM Bool := do
  if ((← store).get? there).isNone then return true
  else if o.has 'n' = true then return false
  else if o.asks = true then isAgreed name ("overwrite " ++ shownName goal)
  else return true

/-- Copies what a path leads to. Directories are nested at most as deep as given. -/
def copy (name : Text) (o : Settings) : Nat → Text → Text → ShellM Nat
  | 0, _, _ => return 1
  | n + 1, source, goal => do
    let refuse (message : Text) : ShellM Nat := refuseWith 1 name message
    let isDeep := o.has 'r' || o.has 'R' || o.has 'a'
    let s ← store
    match ← entryBy (!isDeep) source with
    | .error fault => refuse ("cannot stat " ++ shownName source ++ ": " ++ fault.reason)
    | .ok (here, e) =>
      match e, s.locate goal with
      | .directory, .ok there => do
        if isDeep = false then
          refuse ("-r not specified; omitting directory " ++ shownName source)
        else if here.isPrefixOf there = true then
          refuse ("cannot copy a directory, " ++ shownName source ++ ", into itself, " ++
            shownName goal)
        else do
          setStore (s.put there .directory)
          greatestStatus (fun x => copy name o n (Path.join source x) (Path.join goal x))
            ((s.members here).map Prod.fst)
      | .link target, .ok there => do
        setStore ((s.erase there).put there (.link target))
        return 0
      | .file text mode, .ok there =>
        if isOne s here there = true then
          refuse (shownName source ++ " and " ++ shownName goal ++ " are the same file")
        else if (← mayReplace name o goal there) = false then return 1
        else
          let bits := match s.get? there with
            | some (.file _ old) => if o.has 'p' = true then mode else old
            | _ => if o.has 'p' = true then mode else mode &&& (0o7777 ^^^ usualMask)
          setStore (s.put there (.file text bits))
          return 0
      | _, .error fault =>
        let kind : Text := if e = .directory then "directory " else "regular file "
        refuse ("cannot create " ++ kind ++ shownName goal ++ ": " ++ fault.reason)

/-- Moves what a path names. -/
def move (name : Text) (o : Settings) (source goal : Text) : ShellM Nat := do
  let refuse (message : Text) : ShellM Nat := refuseWith 1 name message
  let s ← store
  match ← entryBy false source, s.locateName (trimSlashes goal) with
  | .error fault, _ => refuse ("cannot stat " ++ shownName source ++ ": " ++ fault.reason)
  | .ok _, .error fault =>
    refuse ("cannot move " ++ shownName source ++ " to " ++ shownName goal ++ ": " ++ fault.reason)
  | .ok (here, e), .ok there =>
    let isFull := !(s.members there).isEmpty
    if e = .directory ∧ here.isPrefixOf there = true then
      refuse ("cannot move " ++ shownName source ++ " to a subdirectory of itself, " ++
        shownName goal)
    else if isOne s here there = true then
      refuse (shownName source ++ " and " ++ shownName goal ++ " are the same file")
    else if (← mayReplace name o goal there) = false then return 0
    else
      match e, s.get? there with
      | .directory, some .directory =>
        if isFull = true then
          refuse ("cannot overwrite " ++ shownName goal ++ ": Directory not empty")
        else do
          setStore (s.rename here there)
          return 0
      | .directory, some _ =>
        refuse ("cannot overwrite non-directory " ++ shownName goal ++ " with directory " ++
          shownName source)
      | _, some .directory =>
        refuse ("cannot overwrite directory " ++ shownName goal ++ " with non-directory")
      | _, _ => do
        setStore (s.rename here there)
        return 0

/-- Gives a file one more name, or makes a link to a path. -/
def linkTo (name : Text) (o : Settings) (source goal : Text) : ShellM Nat := do
  let isSymbolic := o.has 's'
  let kind : Text := if isSymbolic = true then "symbolic link " else "hard link "
  let failure := "failed to create " ++ kind ++ shownName goal
  let s ← store
  match ← entryBy false source, s.locateName goal with
  | found, .error fault =>
    let way : Text := if isSymbolic || found.toOption.isNone then []
      else " => " ++ shownName source
    refuseWith 1 name (failure ++ way ++ ": " ++ fault.reason)
  | found, .ok there =>
    let cleared := if o.has 'f' = true then s.erase there else s
    if (cleared.get? there).isSome then refuseWith 1 name (failure ++ ": File exists")
    else if isSymbolic = true then do
      setStore (cleared.put there (.link source))
      return 0
    else
      match found with
      | .error fault =>
        refuseWith 1 name ("failed to access " ++ shownName source ++ ": " ++ fault.reason)
      | .ok (_, .directory) =>
        refuseWith 1 name (source ++ ": hard link not allowed for directory")
      | .ok (here, _) =>
        if isOne s here there = true then
          refuseWith 1 name (shownName source ++ " and " ++ shownName goal ++ " are the same file")
        else do
          setStore (cleared.share here there)
          return 0

/-- Runs an action for each source, with the path that it is to have. With several sources the last
operand has to be a directory. -/
def transferBy (letters : Text) (action : Text → Settings → Text → Text → ShellM Nat) : Utility :=
  fun _ name arguments => withOptions letters name arguments 1 fun o => do
    match o.operands.reverse with
    | [] => misuse name "missing file operand" 1
    | [source] => misuse name ("missing destination file operand after " ++ shownName source) 1
    | [goal, source] => action name o source (← goalOf source goal)
    | goal :: sources =>
      match ← entryBy true goal with
      | .ok (_, .directory) =>
        greatestStatus (fun source => do action name o source (← goalOf source goal))
          sources.reverse
      | .ok _ => refuseWith 1 name ("target " ++ shownName goal ++ ": Not a directory")
      | .error fault => refuseWith 1 name ("target " ++ shownName goal ++ ": " ++ fault.reason)

/-- Copies files, and directories where that is asked for. -/
def copyFiles : Utility :=
  transferBy "afinprR" fun name o source goal => do
    copy name o ((← store).slots.length + 1) source goal

/-- Moves files and directories. -/
def moveFiles : Utility := transferBy "fin" move

/-- Gives files second names, or makes links. -/
def linkFiles : Utility := transferBy "fns" linkTo

end NodeClasses.Shell
