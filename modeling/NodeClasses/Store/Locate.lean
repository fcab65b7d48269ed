import NodeClasses.Store.Basic
import NodeClasses.Store.Path

/-!
# Reading and writing by path

A path is followed segment by segment through the directories and links of a store to a location,
or fails with a `Fault`. Files are read, written and extended at the location that a path leads to.
`write_eq_ok` says that a write replaces the text at that location and changes nothing else.
-/

namespace NodeClasses
set_option autoImplicit false

open Text

/-- Why a path cannot be used. -/
inductive Fault where
  /-- The path holds the character U+0000. -/
  | nulInPath
  /-- The path or one of its segments is too long. -/
  | nameTooLong
  /-- A part of the path does not exist. -/
  | notFound
  /-- A file stands where the path needs a directory. -/
  | notDirectory
  /-- A directory stands where the path needs a file. -/
  | isDirectory
  /-- Too many links are followed. -/
  | tooManyLinks
  /-- The descriptor leads nowhere, or not in this direction. -/
  | badDescriptor
  /-- There is no room for what is written. -/
  | noSpace
  /-- Nothing is connected to the device. -/
  | noDevice
  deriving DecidableEq, Repr

/-- The reason that a fault gives. -/
def Fault.reason : Fault → Text
  | .nulInPath => "file name contained an unexpected NUL byte"
  | .nameTooLong => "File name too long"
  | .notFound => "No such file or directory"
  | .notDirectory => "Not a directory"
  | .isDirectory => "Is a directory"
  | .tooManyLinks => "Too many levels of symbolic links"
  | .badDescriptor => "Bad file descriptor"
  | .noSpace => "No space left on device"
  | .noDevice => "No such device or address"

/-- The number of a fault that the system found. -/
def Fault.number? : Fault → Option Text
  | .nulInPath => none
  | .nameTooLong => some "36"
  | .notFound => some "2"
  | .notDirectory => some "20"
  | .isDirectory => some "21"
  | .tooManyLinks => some "40"
  | .badDescriptor => some "9"
  | .noSpace => some "28"
  | .noDevice => some "6"

/-- The wording of a fault: its reason and its number. -/
def Fault.message (fault : Fault) : Text :=
  match fault.number? with
  | none => fault.reason
  | some number => fault.reason ++ " (os error " ++ number ++ ")"

namespace Store

/-- The bytes of a path stay below this number. -/
def pathLimit : Nat := 4096

/-- A segment has at most this many bytes. -/
def segmentLimit : Nat := 255

/-- The permission bits of a new file. -/
def newFileMode : Nat := 0o644

/-- The bits that permit the owner, the group or others to execute a file. -/
def executeBits : Nat := 0o111

/-- So many links are followed on the way of one path. -/
def linkLimit : Nat := 40

/-- Follows segments from a location. Only a directory can be left by a segment, and the last
segment may name something that does not exist. How a link is followed is told by `onLink`, which
gets the directory to start from and the segments that are to be followed; a link that the last
segment names need not be followed. -/
def walk (s : Store) (follows : Bool) (onLink : Location → List Text → Except Fault Location) :
    Location → List Text → Except Fault Location
  | here, [] => .ok here
  | here, segment :: rest =>
    match s.get? here with
    | none => .error .notFound
    | some (.file _ _) => .error .notDirectory
    | some (.link _) => .error .notDirectory
    | some .directory =>
      if Path.isIdle segment = true then s.walk follows onLink here rest
      else if segment = ".." then s.walk follows onLink here.dropLast rest
      else if segmentLimit < segment.length then .error .nameTooLong
      else
        match s.get? (here ++ [segment]) with
        | some (.link path) =>
          if rest = [] ∧ follows = false then .ok (here ++ [segment])
          else onLink (if Path.isAbsolute path = true then [] else here)
            (Path.segments path ++ rest)
        | _ => s.walk follows onLink (here ++ [segment]) rest

/-- Follows segments from a location, through at most so many links. -/
def locateFrom (s : Store) (follows : Bool) : Nat → Location → List Text → Except Fault Location
  | 0 => s.walk follows fun _ _ => .error .tooManyLinks
  | n + 1 => s.walk follows (s.locateFrom follows n)

/-- Where a path starts, unless the working directory is taken away. -/
def startOf? (s : Store) (path : Text) : Option Location :=
  if Path.isAbsolute path = true then some [] else s.here?

/-- The location that a path leads to, where a link at its end may be the goal itself. -/
def locateBy (s : Store) (follows : Bool) (path : Text) : Except Fault Location :=
  if '\x00' ∈ path then .error .nulInPath
  else if pathLimit ≤ path.length then .error .nameTooLong
  else if path = [] then .error .notFound
  else
    match s.startOf? path with
    | none => .error .notFound
    | some start => s.locateFrom follows linkLimit start (Path.segments path)

/-- The location that a path leads to. -/
def locate (s : Store) (path : Text) : Except Fault Location := s.locateBy true path

/-- The location that a path names: a link at its end is not followed. -/
def locateName (s : Store) (path : Text) : Except Fault Location := s.locateBy false path

/-- The location of a file that may be made at a path. A path that ends in a slash can only name a
directory. -/
def locateFile (s : Store) (path : Text) : Except Fault Location :=
  match path.reverse.dropWhile (· == '/') with
  | [] => s.locate path
  | last =>
    if path.getLast? = some '/' then
      match s.locateName last.reverse with
      | .error fault => .error fault
      | .ok _ => .error .isDirectory
    else s.locate path

/-- The text and the permission bits of the file that a path leads to. -/
def readFile (s : Store) (path : Text) : Except Fault (Text × Nat) :=
  match s.locate path with
  | .error fault => .error fault
  | .ok here =>
    match s.get? here with
    | some (.file text mode) => .ok (text, mode)
    | some .directory => .error .isDirectory
    | _ => .error .notFound

/-- Is there a regular file at the path that somebody may execute? -/
def isExecutable (s : Store) (path : Text) : Bool :=
  match s.readFile path with
  | .error _ => false
  | .ok (_, mode) => mode &&& executeBits != 0

/-- Changes the text of the file that a path leads to. A new file starts empty with `newFileMode`,
and an existing one keeps its permission bits. A link is never put out of the way: it is followed
on the way there. -/
def edit (s : Store) (path : Text) (change : Text → Text) : Except Fault Store :=
  match s.locateFile path with
  | .error fault => .error fault
  | .ok here =>
    match s.get? here with
    | some .directory => .error .isDirectory
    | some (.link _) => .error .tooManyLinks
    | some (.file text mode) => .ok (s.put here (.file (change text) mode))
    | none => .ok (s.put here (.file (change []) newFileMode))

/-- Writes a whole file. -/
def write (s : Store) (path text : Text) : Except Fault Store := s.edit path fun _ => text

/-- Sets the permission bits of the file or directory that a path leads to. -/
def setMode (s : Store) (path : Text) (mode : Nat) : Except Fault Store :=
  match s.locate path with
  | .error fault => .error fault
  | .ok here =>
    if (s.get? here).isSome = true then .ok (s.setModeAt here mode) else .error .notFound

/-- Removes the file, the link or the whole directory that a path names. -/
def remove (s : Store) (path : Text) : Except Fault Store :=
  match s.locateName path with
  | .error fault => .error fault
  | .ok here => if (s.get? here).isSome = true then .ok (s.erase here) else .error .notFound

/-- Follows segments from a location and makes the directories that are missing. -/
def makeDirectoriesFrom : Store → Location → List Text → Except Fault Store
  | s, _, [] => .ok s
  | s, here, segment :: rest =>
    if Path.isIdle segment = true then makeDirectoriesFrom s here rest
    else if segment = ".." then makeDirectoriesFrom s here.dropLast rest
    else if segmentLimit < segment.length then .error .nameTooLong
    else
      match s.get? (here ++ [segment]) with
      | none => makeDirectoriesFrom (s.put (here ++ [segment]) .directory) (here ++ [segment]) rest
      | some _ =>
        match s.locateFrom true linkLimit here [segment] with
        | .error fault => .error fault
        | .ok there =>
          if s.get? there = some .directory then makeDirectoriesFrom s there rest
          else .error .notDirectory

/-- Makes a directory and those above it, as far as they are missing. -/
def makeDirectories (s : Store) (path : Text) : Except Fault Store :=
  if '\x00' ∈ path then .error .nulInPath
  else
    match s.startOf? path with
    | none => .error .notFound
    | some start => makeDirectoriesFrom s start (Path.segments path)

/-- A file is read at the location that the path leads to. -/
theorem readFile_eq_ok_iff {s : Store} {path text : Text} {mode : Nat} :
    s.readFile path = .ok (text, mode) ↔
      ∃ here, s.locate path = .ok here ∧ s.get? here = some (.file text mode) := by
  unfold readFile
  cases located : s.locate path with
  | error fault => simp
  | ok here =>
    rcases found : s.get? here with _ | entry
    · simp [found]
    · cases entry <;> simp [found]

/-- A write succeeds where the path leads to a location that holds a file or nothing, and it
replaces the text there. -/
theorem write_eq_ok {s t : Store} {path text : Text} (h : s.write path text = .ok t) :
    ∃ here mode, s.locateFile path = .ok here ∧
      (s.get? here = none ∨ ∃ old, s.get? here = some (.file old mode)) ∧
      t = s.put here (.file text mode) := by
  unfold write edit at h
  cases hl : s.locateFile path with
  | error fault => simp [hl] at h
  | ok here =>
    cases hg : s.get? here with
    | none =>
      simp only [hl, hg, Except.ok.injEq] at h
      exact ⟨here, newFileMode, rfl, .inl hg, h.symm⟩
    | some e =>
      cases e with
      | directory => simp [hl, hg] at h
      | link path => simp [hl, hg] at h
      | file old mode =>
        simp only [hl, hg, Except.ok.injEq] at h
        exact ⟨here, mode, rfl, .inr ⟨old, hg⟩, h.symm⟩

end Store

end NodeClasses
