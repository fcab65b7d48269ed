import NodeClasses.Shell.Builtin.Basic

/-!
# Variables and arguments

The commands of the shell that declare variables, take them away, fill them from a line of the
input, and drop arguments.
-/

namespace NodeClasses.Shell.Builtin
set_option autoImplicit false

open Text

/-- Refuses what cannot be the name of a variable. -/
def checkName (name : Text) : ShellM Unit := do
  if isName name = false then fail (name ++ ": bad variable name")

/-- The name and the value in an argument that declares a variable. -/
def declaration (t : Text) : Text × Option Text :=
  match t.dropWhile fun c => c != '=' with
  | [] => (t, none)
  | _ :: value => (t.takeWhile fun c => c != '=', some value)

/-- Declares variables, each changed by `f`. -/
def declareAll (f : Variable → Variable) : List Text → ShellM Nat
  | [] => return 0
  | t :: rest => do
    let (name, value) := declaration t
    checkName name
    match value with
    | some v => assign name v
    | none => pure ()
    let old := ((← get).bindings.lookup name).getD ⟨none, false, false⟩
    modify fun s => { s with bindings := declare name (some (f old)) s.bindings }
    declareAll f rest

/-- Shows variables to processes. -/
def exportAll : Builtin := fun _ _ words =>
  declareAll (fun v => { v with isExported := true }) words

/-- Keeps variables from being changed. -/
def fixAll : Builtin := fun _ _ words => declareAll (fun v => { v with isFixed := true }) words

/-- Makes variables local to the function that is being called. -/
def localAll : Builtin := fun _ _ words => do
  if (← get).frames.isEmpty then fail "not in a function"
  for t in words do
    let (name, value) := declaration t
    checkName name
    modify fun s =>
      { s with
        frames := s.frames.modifyHead fun covered =>
          if (covered.lookup name).isSome then covered
          else (name, s.bindings.lookup name) :: covered }
    match value with
    | some v => assign name v
    | none => pure ()
  return 0

/-- Takes variables away, or functions. -/
def unset : Builtin := fun _ _ words => withLetters "vf" words fun o => do
  let areFunctions := (o.given.getLast?.map Prod.fst) == some 'f'
  for name in o.operands do
    if areFunctions = true then
      modify fun s => { s with functions := s.functions.filter fun f => f.1 != name }
    else do
      checkName name
      unassign name
  return 0

/-- Drops arguments. -/
def shift : Builtin := fun _ _ words => do
  let n ← match words with
    | [] => pure 1
    | t :: _ => checkedNumber t
  let arguments := (← get).arguments
  if arguments.length < n then fail "can't shift that many"
  modify fun s => { s with arguments := arguments.drop n }
  return 0

/-- Cuts a value off the marks of a line: what comes before the first separator. -/
def cutValue (separators : Text) (marks : List Mark) : Text × List Mark :=
  let isBlank (m : Mark) : Bool := !m.2 && Glyph.isBlankSeparator separators m.1
  let isEnd (m : Mark) : Bool := !m.2 && separators.contains m.1
  let value := marks.takeWhile fun m => !isEnd m
  let behind := (marks.drop value.length).dropWhile isBlank
  let rest := match behind with
    | m :: more => if isEnd m = true then more.dropWhile isBlank else behind
    | [] => []
  (value.map Prod.fst, rest)

/-- The values that names get from a line. The last one gets all that is left, without blank
separators at its end, and without a last separator if it is the only one. -/
def valuesOf (separators : Text) : List Text → List Mark → List (Text × Text)
  | [], _ => []
  | [name], marks =>
    let isBlank (m : Mark) : Bool := !m.2 && Glyph.isBlankSeparator separators m.1
    let (value, rest) := cutValue separators marks
    if rest.isEmpty then [(name, value)]
    else [(name, ((marks.reverse.dropWhile isBlank).reverse).map Prod.fst)]
  | name :: names, marks =>
    let (value, rest) := cutValue separators marks
    (name, value) :: valuesOf separators names rest

/-- The marks of a line in which a backslash quotes the next character. -/
def lineMarks : Text → List Mark
  | [] => []
  | '\\' :: c :: rest => if c = '\n' then lineMarks rest else (c, true) :: lineMarks rest
  | c :: rest => if c = '\n' then lineMarks rest else (c, false) :: lineMarks rest

/-- Takes a line, and more lines as long as a backslash ends them. -/
def receiveLines : Nat → ShellM Text
  | 0 => return []
  | n + 1 => do
    let l ← receiveLine 0
    let backslashes := (l.dropLast.reverse.takeWhile fun c => c == '\\').length
    if l.getLast? = some '\n' ∧ backslashes % 2 = 1 then return l ++ (← receiveLines n)
    else return l

/-- How many lines one line may go on. -/
def continuationLimit : Nat := 1000

/-- Reads a line into variables. A prompt is for terminals only. -/
def read : Builtin := fun _ _ words => withLetters "p:r" words fun o => do
  let isRaw := o.has 'r'
  if o.operands.isEmpty then fail "arg count"
  let line ← if isRaw = true then receiveLine 0 else receiveLines continuationLimit
  let marks := if isRaw = true then (line.filter (· != '\n')).map fun c => (c, false)
    else lineMarks line
  let seps ← separators
  let start := marks.dropWhile fun m => !m.2 && Glyph.isBlankSeparator seps m.1
  for (name, value) in valuesOf seps o.operands start do
    checkName name
    assign name value
  return if line.getLast? = some '\n' then 0 else 1

end NodeClasses.Shell.Builtin
