import NodeClasses.Store.Locate

/-!
# Executable files

A file that is run is a native program or a script. The first line of a script names the file that
runs it, which may be a script in turn. `Executable.load` follows scripts down to the native
program behind them and says with which arguments it starts; `Executable.search` looks for a file
on a search path first.
-/

namespace NodeClasses
set_option autoImplicit false

open Text

/-- Why a file cannot be run. -/
inductive StartFault where
  /-- The path or an argument holds the character U+0000. -/
  | nulInside
  | missing
  /-- A file stands where the path needs a directory. -/
  | notDirectory
  | nameTooLong
  /-- It is a directory, or nobody may execute it. -/
  | denied
  /-- It is neither a native program nor a script. -/
  | noFormat
  /-- Too many scripts run each other, or too many links are followed. -/
  | tooDeep
  deriving DecidableEq, Repr

namespace StartFault

/-- The fault of a file that cannot be opened. -/
def ofFault : Fault → StartFault
  | .nulInPath => .nulInside
  | .nameTooLong => .nameTooLong
  | .notFound => .missing
  | .notDirectory => .notDirectory
  | .tooManyLinks => .tooDeep
  | .isDirectory | .badDescriptor | .noSpace | .noDevice => .denied

/-- The wording of a fault. -/
def reason : StartFault → Text
  | .nulInside => "Invalid argument"
  | .missing => "No such file or directory"
  | .notDirectory => "Not a directory"
  | .nameTooLong => "File name too long"
  | .denied => "Permission denied"
  | .noFormat => "Exec format error"
  | .tooDeep => "Too many levels of symbolic links"

end StartFault

/-- A native program and the words it is called with, of which the first is the name that it goes
by. -/
structure Execution where
  program : Text
  words : List Text
  deriving DecidableEq, Repr

namespace Executable

/-- What the file of a native program starts with. Its name follows. The mark is the number of no
byte, so nobody can write such a file but by copying one. -/
def nativeMark : Text := ['\u0100']

/-- The text of the file of a native program. -/
def native (program : Text) : Text := nativeMark ++ program

/-- The native program that a file holds. -/
def native? (text : Text) : Option Text :=
  if nativeMark.isPrefixOf text = true then some (text.drop nativeMark.length) else none

/-- So many bytes of a file are looked at for its interpreter. -/
def headLimit : Nat := 256

/-- Does the character stand between an interpreter and its argument? -/
def isGap (c : Char) : Bool := c == ' ' || c == '\t'

/-- Does the character end the path of an interpreter? -/
def endsPath (c : Char) : Bool := isGap c || c == '\x00'

/-- The text without gaps at its end. -/
def trimEnd (t : Text) : Text := (t.reverse.dropWhile isGap).reverse

/-- The interpreter that a line names, and its one argument, which takes up the rest of the line.
Nothing counts behind the character U+0000. -/
def interpreterIn? (line : Text) : Option (Text × Option Text) :=
  match line.dropWhile isGap with
  | [] => none
  | named =>
    let path := named.takeWhile fun c => !endsPath c
    let behind := named.dropWhile fun c => !endsPath c
    let argument :=
      if (behind.head?.map isGap).getD false then
        match behind.dropWhile isGap with
        | [] => none
        | a => some (a.takeWhile fun c => c != '\x00')
      else none
    some (path, argument)

/-- The interpreter of a script and its argument. The path must end within the part of the file
that is looked at, and the end of the file ends it as well. -/
def interpreter? (text : Text) : Option (Text × Option Text) :=
  match text with
  | '#' :: '!' :: _ =>
    let region := ((text ++ ['\x00']).take headLimit).drop 2
    let plain := region.takeWhile fun c => c != '\n' && c != '\x00'
    if region[plain.length]? = some '\n' then interpreterIn? (trimEnd plain)
    else if (region.dropWhile isGap).any endsPath = true then
      interpreterIn? (trimEnd (region.take (headLimit - 3)))
    else none
  | _ => none

/-- The native program behind the file at a path, where at most the given number of files may be
looked at, and the words that it is called with. The first of the given words is a name for the
file, which a script's interpreter gets to see as the path instead. -/
def loadThrough (s : Store) : Nat → Text → List Text → Except StartFault Execution
  | 0, _, _ => .error .tooDeep
  | n + 1, path, words =>
    match s.readFile path with
    | .error fault => .error (.ofFault fault)
    | .ok (text, mode) =>
      if mode &&& Store.executeBits = 0 then .error .denied
      else
        match native? text with
        | some program => .ok ⟨program, words⟩
        | none =>
          match interpreter? text with
          | none => .error .noFormat
          | some (interpreter, argument) =>
            loadThrough s n interpreter (interpreter :: argument.toList ++ path :: words.tail)

/-- Scripts may run each other so many files deep. -/
def depthLimit : Nat := 6

/-- The native program behind the file at a path, called with the given words. -/
def load (s : Store) (path : Text) (words : List Text) : Except StartFault Execution :=
  if words.any fun w => w.contains '\x00' then .error .nulInside
  else loadThrough s depthLimit path words

/-- Where files without a slash in their name are looked for if no search path is set. -/
def defaultSearchPath : Text := "/bin:/usr/bin"

/-- The path of a name in a directory of a search path, where an empty one is the working
directory. -/
def within (dir name : Text) : Text := if dir = [] then name else dir ++ '/' :: name

/-- The paths at which a search path has a file of the given name, in order. -/
def candidates (searchPath name : Text) : List Text :=
  (pieces (· == ':') searchPath).map fun dir => within dir name

/-- The fault of a search after one more fault: that a file must not be executed is not forgotten.
-/
def combined (fault next : StartFault) : StartFault := if fault = .denied then .denied else next

/-- The first of the paths that leads to a program, given the fault so far. What is not there and
what must not be executed is passed over, and any other fault ends the search. -/
def firstOf (s : Store) (words : List Text) : StartFault → List Text → Except StartFault Execution
  | fault, [] => .error fault
  | fault, path :: rest =>
    match load s path words with
    | .error .denied => firstOf s words .denied rest
    | .error .missing => firstOf s words (combined fault .missing) rest
    | .error .notDirectory => firstOf s words (combined fault .notDirectory) rest
    | other => other

/-- The native program behind the file of the given name, which is a path if it has a slash, and
else is to be found at one of the paths. -/
def searchAmong (s : Store) (paths : List Text) (name : Text) (words : List Text) :
    Except StartFault Execution :=
  if '/' ∈ name then load s name words
  else if name = [] then .error .missing
  else if Store.segmentLimit < name.length then .error .nameTooLong
  else firstOf s words .missing paths

/-- A list of directories in which one that takes more bytes than a path may leaves an empty one in
its place. There is no place for it at the end. -/
def shortened : List Text → List Text
  | [] => []
  | [dir] => if Store.pathLimit ≤ dir.length then [] else [dir]
  | dir :: next :: rest =>
    (if Store.pathLimit ≤ dir.length then [] else dir) :: shortened (next :: rest)

/-- The native program behind the file of the given name: a path if it has a slash, else what the
search path has of that name. -/
def search (s : Store) (searchPath : Option Text) (name : Text) (words : List Text) :
    Except StartFault Execution :=
  let dirs := shortened (pieces (· == ':') (searchPath.getD defaultSearchPath))
  searchAmong s (dirs.map fun dir => within dir name) name words

end Executable

end NodeClasses
