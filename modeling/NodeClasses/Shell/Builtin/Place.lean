import NodeClasses.Shell.Builtin.Basic

/-!
# The working directory of a shell

The commands of the shell about its working directory.
-/

namespace NodeClasses.Shell.Builtin
set_option autoImplicit false

open Text

/-- Is the last of the letters the one for where links lead? -/
def isPhysical (o : Settings) : Bool := (o.given.getLast?.map Prod.fst) == some 'P'

/-- Prints the working directory, as it was gone or as it is. -/
def pwd : Builtin := fun _ _ words => withLetters "LP" words fun o => do
  let s ← get
  let own := (s.world.store.here?.map Path.ofLocation).getD []
  say ((if isPhysical o = true then own else s.directory) ++ "\n")
  return 0

/-- Does the path start at the root, or with a dot that stands for a directory? -/
def isAnchored (path : Text) : Bool :=
  match path with
  | '/' :: _ => true
  | _ => [['.'], ['.', '.']].contains (path.takeWhile fun c => c != '/')

/-- Is there a directory where a path leads? -/
def isDirectory (s : Store) (path : Text) : Bool :=
  (s.locate path).toOption.bind s.get? == some .directory

/-- Changes the working directory. It is gone to by the wording of a path, or step by step. A
directory that is found on a search path is printed. -/
def cd : Builtin := fun _ _ words => withLetters "LP" words fun o => do
  let s ← get
  let t := s.world.store
  let goal : Text := (o.operands.head?.or (s.value? "HOME")).getD []
  let isBack := goal == "-"
  let path := if isBack = true then (s.value? "OLDPWD").getD [] else goal
  let named : Text := if path.isEmpty then "." else path
  let dirs := if isAnchored path = true then [] else
    ((s.value? "CDPATH").map (pieces (· == ':'))).getD []
  let found := dirs.find? fun dir => isDirectory t (Executable.within dir named)
  let target := Executable.within (found.getD []) (if found.isSome then named else path)
  let isStepwise := isPhysical o || (s.directory.isEmpty && !Path.isAbsolute target)
  let gone := if isStepwise = true then target else Path.worded s.directory target
  match t.locate gone with
  | .error _ => fail ("can't cd to " ++ path)
  | .ok here => do
    if t.get? here ≠ some .directory then fail ("can't cd to " ++ path)
    let directory := if isStepwise = true then Path.ofLocation here else gone
    setStore (t.enter here)
    modify fun s => { s with directory := directory }
    assignForAll "OLDPWD" s.directory
    assignForAll "PWD" directory
    if isBack || found.any (!·.isEmpty) then say (directory ++ "\n")
    return 0

end NodeClasses.Shell.Builtin
