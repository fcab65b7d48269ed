import NodeClasses.Text.Basic

/-!
# Paths

A path is a text whose segments are separated by slashes. `Path.join` places a path in a
directory, unless it is absolute, and `Path.fileName` is what a path ends in, with the segments
that lead nowhere left out.
-/

namespace NodeClasses.Path
set_option autoImplicit false

/-- The segments of a path, empty ones included. -/
def segments (path : Text) : List Text := Text.pieces (· == '/') path

/-- Does the path start at the root? -/
def isAbsolute (path : Text) : Bool := path.head? == some '/'

/-- The path inside the directory. An absolute path stands for itself, and so does any path inside
the empty directory. -/
def join (dir path : Text) : Text :=
  if isAbsolute path = true ∨ dir = [] then path
  else if dir.getLast? = some '/' then dir ++ path
  else dir ++ "/" ++ path

/-- Does the segment stay where it is? -/
def isIdle (segment : Text) : Bool := segment == "" || segment == "."

/-- The last segment that does not stay where it is, or nothing if that is the way up or if there
is none. -/
def fileName (path : Text) : Text :=
  match ((segments path).filter fun s => !isIdle s).getLast? with
  | none => []
  | some last => if last = ".." then [] else last

/-- The path from the root to the place that names lead to. -/
def ofLocation (names : List Text) : Text :=
  if names.isEmpty then "/" else names.flatMap fun name => '/' :: name

/-- The path that leads from the root to where another path leads by its wording alone, where two
dots take back the segment in front of them. It starts at the given path. -/
def worded (start path : Text) : Text :=
  let whole := if isAbsolute path = true then path else start ++ '/' :: path
  let steps := (segments whole).foldl (fun steps segment =>
    if isIdle segment = true then steps
    else if segment = ".." then steps.dropLast
    else steps ++ [segment]) []
  ofLocation steps

@[simp] theorem join_nil_left (path : Text) : join [] path = path := by
  simp [join]

end NodeClasses.Path
