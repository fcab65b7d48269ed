import NodeClasses.Shell.Process

/-!
# Running commands

`command` says what a command does, given how the commands and words inside it are run.
`evaluator` ties the knot for commands that are nested at most as deep as given.
-/

namespace NodeClasses.Shell
set_option autoImplicit false

open Text

/-- Runs the command of the shell itself that has just given its status. -/
def leaveOnError (isTested : Bool) : ShellM Unit := do
  let s ← get
  if !isTested && s.status != 0 && s.options.contains 'e' then throw .exit

/-- Why a file cannot be opened, for reading or for writing. -/
def openReason (mode : Mode) (fault : Fault) : Text :=
  match fault with
  | .notFound | .notDirectory => if mode = .read then "No such file" else "Directory nonexistent"
  | fault => fault.reason

/-- Lets a descriptor lead to a file. Files may be protected from being overwritten. -/
def redirectToFile (descriptor : Nat) (mode : Mode) (path : Text) : ShellM Bool := do
  let verb : Text := if mode = .read then "open" else "create"
  let refuse (reason : Text) : ShellM Bool := do
    warn ("cannot " ++ verb ++ " " ++ path ++ ": " ++ reason)
    setStatus 2
    return false
  let t ← store
  let isThere := match t.readFile path, t.locate path with
    | .ok _, .ok here => !isSpecial here
    | _, _ => false
  if isThere && mode == .overwrite && (← hasOption 'C') then refuse "File exists"
  else
    match ← openPath mode path with
    | .error fault => refuse (openReason mode fault)
    | .ok place => do
      attach descriptor place
      return true

/-- Lets a descriptor lead to where another one leads. -/
def redirectToDescriptor (descriptor : Nat) (source : Text) : ShellM Bool := do
  let refuse : ShellM Bool := do
    modify fun s => { s with line := s.reached }
    fail "Syntax error: Bad fd number"
  match source with
  | ['-'] => do
    detach descriptor
    return true
  | [d] =>
    if d.isDigit = false then refuse
    else
      match (← get).descriptors.lookup (d.toNat - '0'.toNat) with
      | some place => do
        attach descriptor place
        return true
      | none => do
        warn ([d] ++ ": Bad file descriptor")
        setStatus 2
        return false
  | _ => refuse

/-- Redirects descriptors in order. The result says if all of it could be done. -/
def redirect (self : Evaluator) : List Redirection → ShellM Bool
  | [] => return true
  | r :: rest => do
    let isDone ← match r with
      | .file descriptor mode path => do redirectToFile descriptor mode (← plainText self path)
      | .copy descriptor source => do redirectToDescriptor descriptor (← plainText self source)
      | .document descriptor body => do
        attach descriptor (← connect (.source (← plainText self body)))
        pure true
    if isDone = true then redirect self rest else return false

/-- The commands whose arguments may be assignments. -/
def declarers : List Text := ["export", "readonly", "local"]

/-- The fields of a call. An argument that is an assignment is not split where it declares. -/
def callFields (self : Evaluator) : List Word → ShellM (List Text)
  | [] => return []
  | first :: rest => do
    match ← fieldsOf self [first] with
    | [] => callFields self rest
    | name :: more => do
      let operands ←
        if declarers.contains name then
          rest.mapM fun w => do
            match Reader.assignment? w with
            | some (x, value) =>
              return [x ++ '=' :: (← plainText self (withHomes (← get) value))]
            | none => fieldsOf self [w]
        else return name :: more ++ (← fieldsOf self rest)
      return name :: more ++ operands.flatten

/-- Gives variables in some way the values that words stand for. Each word sees the values before
it, and all of them are the result. -/
def assignEach (self : Evaluator) (put : Text → Text → ShellM Unit) :
    List (Text × Word) → ShellM (List (Text × Text))
  | [] => return []
  | (name, w) :: rest => do
    let value ← plainText self (withHomes (← get) w)
    put name value
    return (name, value) :: (← assignEach self put rest)

/-- Runs an action, which is given the values, while variables have the values of words. -/
def withAssignments {α : Type} (self : Evaluator) (assignments : List (Text × Word))
    (action : List (Text × Text) → ShellM α) : ShellM α := do
  let old := (← get).bindings
  let restore : ShellM Unit := modify fun s =>
    { s with
      bindings := assignments.foldl (fun vs v => declare v.1 (old.lookup v.1) vs) s.bindings
      tracked := if assignments.any (·.1 == searchPathName) then [] else s.tracked }
  try
    let a ← action (← assignEach self assignForAll assignments)
    restore
    return a
  catch i =>
    restore
    throw i

/-- So many functions may be at work in a shell. -/
def functionLimit : Nat := 1000

/-- Calls a function. -/
def callFunction (self : Evaluator) (isTested : Bool) (body : Command) (arguments : List Text) :
    ShellM Unit := do
  let outer ← get
  if functionLimit ≤ outer.frames.length then
    fail ("Maximum function recursion depth (" ++ ofNat functionLimit ++ ") reached")
  set { outer with
    arguments := arguments
    loops := 0
    frames := [] :: outer.frames }
  let leave : ShellM Unit := modify fun s =>
    { s with
      arguments := outer.arguments
      loops := outer.loops
      frames := outer.frames
      bindings := (s.frames.headD []).foldl (fun vs v => declare v.1 v.2 vs) s.bindings }
  try
    self.run isTested body
    leave
  catch
    | .back => leave
    | i => do
      leave
      throw i

/-- Runs an action in the name of a command of the shell itself, and complains if its output is
lost. An error ends the shell only if the command is special. -/
def speaking (name : Text) (isSpecial : Bool) (action : ShellM Nat) : ShellM Unit := do
  let outer := (← get).speaker
  modify fun s => { s with speaker := some name, lost := none }
  let leave : ShellM Unit := modify fun s => { s with speaker := outer, lost := none }
  try
    let status ← action
    if (← get).lost.isSome then
      warn (name ++ ": I/O error")
      setStatus (status ||| 1)
    else setStatus status
    leave
  catch i => do
    leave
    if isSpecial || i != .error then throw i

/-- Runs a command of the shell itself. -/
def callBuiltin (self : Evaluator) (isTested : Bool) (name : Text) (b : Builtin)
    (arguments : List Text) (isSpecial : Bool) : ShellM Unit :=
  speaking name isSpecial (b self isTested arguments)

/-- The path at which the shell finds a command, which it keeps in mind. -/
def track (name : Text) : ShellM (Option Text) := do
  let s ← get
  match s.tracked.lookup name with
  | some path => return some path
  | none => do
    let found := (pathsTo s name).find? s.world.store.isExecutable
    if let some path := found then
      unless '/' ∈ name do set { s with tracked := s.tracked ++ [(name, path)] }
    return found

/-- Runs a file as a child, or says why it cannot be run. It may be meant to take the place of the
shell. Was it run? -/
def callFile (self : Evaluator) (isReplacing : Bool) (words : List Text) : ShellM Bool := do
  let s ← get
  let name := words.headD []
  let t := s.world.store
  let isThere (path : Text) : Bool := match t.locate path with
    | .ok here => (t.get? here).isSome
    | .error _ => false
  let refuse (reason : Text) (status : Nat) : ShellM Bool := do
    warn (name ++ ": " ++ reason)
    setStatus status
    return false
  if !name.contains '/' && !(pathsTo s name).any t.isExecutable then
    if (pathsTo s name).any isThere then
      refuse StartFault.denied.reason (if isReplacing = true then 126 else 127)
    else if (pathsTo s name).any fun path => t.locate path matches .error .nameTooLong then
      refuse StartFault.nameTooLong.reason (if isReplacing = true then 126 else 127)
    else refuse "not found" 127
  else
    unless isReplacing do
      let _ ← track name
    match ← launch self words with
    | .ok status => do
      setStatus status
      return true
    | .error .missing | .error .notDirectory => refuse "not found" 127
    | .error .tooDeep => refuse StartFault.tooDeep.reason 127
    | .error .nameTooLong => refuse StartFault.nameTooLong.reason 127
    | .error fault => refuse fault.reason 126

/-- What a word in the place of a command means. -/
inductive Callee where
  | builtin (b : Builtin) (isSpecial : Bool)
  | function (body : Command)
  /-- Puts a file in the place of the shell, or only redirects. -/
  | exec
  /-- Tells what a name means, or calls anything but a function. -/
  | command
  | file

/-- The commands of the shell itself that are about other commands. -/
def commandsOnCommands : List Text := ["command", "type"]

/-- What a word in the place of a command means. Functions may be left out. -/
def callee (s : State) (name : Text) (withFunctions : Bool) : Callee :=
  if name = "exec" then .exec
  else
    match Builtin.ofName? name, if withFunctions = true then s.functions.lookup name else none with
    | some b, f =>
      if specialBuiltins.contains name then .builtin b true
      else
        match f with
        | some body => .function body
        | none => .builtin b false
    | none, some body => .function body
    | none, none => if commandsOnCommands.contains name then .command else .file

/-- Says what a name means: briefly, or in a sentence. -/
def describe (name : Text) (isBrief : Bool) : ShellM Nat := do
  let s ← get
  let found (sentence : Text) : ShellM Nat := do
    say ((if isBrief = true then name else name ++ " is " ++ sentence) ++ "\n")
    return 0
  if reservedWords.contains name then found "a shell keyword"
  else
    match callee s name true with
    | .builtin _ true | .exec => found "a special shell builtin"
    | .function _ => found "a shell function"
    | .builtin _ false | .command => found "a shell builtin"
    | .file =>
      let isKnown := (s.tracked.lookup name).isSome
      let found ← if '/' ∈ name then pure (some name |>.filter (exists? s.world.store))
        else track name
      match found with
      | some path => do
        let way : Text := if isKnown = true then " is a tracked alias for " else " is "
        say ((if isBrief = true then path else name ++ way ++ path) ++ "\n")
        return 0
      | none => do
        if isBrief = false then say (name ++ ": not found\n")
        return 127

/-- Describes each of some names. -/
def callType : List Text → ShellM Nat
  | [] => return 0
  | name :: rest => do
    let status ← describe name false
    return max status (← callType rest)

/-- Calls what words name, where nothing is redirected any more. -/
def call (self : Evaluator) (isTested : Bool) (withFunctions : Bool) (name : Text)
    (arguments : List Text) : ShellM Unit := do
  match callee (← get) name withFunctions with
  | .builtin b isSpecial =>
    callBuiltin self isTested name b arguments (isSpecial && withFunctions)
  | .function body => callFunction self isTested body arguments
  | .file => do
    let _ ← callFile self false (name :: arguments)
  | .exec =>
    unless arguments.isEmpty do
      modify fun s => { s with speaker := some name }
      if (← callFile self true arguments) = true then throw .replaced else throw .exit
  | .command =>
    if name = "type" then speaking name false (callType arguments)

/-- Calls what follows the word `command`, or describes it. That word may be given so many times. -/
def callCommand (self : Evaluator) (isTested : Bool) : Nat → List Text → ShellM Unit
  | 0, _ => throw .exhausted
  | n + 1, arguments => do
    match Builtin.letters "pvV" false arguments with
    | .error message => do
      warn ("command: " ++ message)
      setStatus 2
    | .ok o =>
      match o.operands with
      | [] => setStatus 0
      | name :: rest =>
        if (o.has 'v' || o.has 'V') = true then
          speaking "command" false (describe name (!o.has 'V'))
        else if name = "command" then callCommand self isTested n rest
        else call self isTested false name rest

/-- Shows words before they are called, where that is asked for, on the channel at a place. -/
def trace (place : Option Nat) (values : List (Text × Text)) (fields : List Text) :
    ShellM Unit := do
  if ← hasOption 'x' then
    let mark := ((← get).value? "PS4").getD []
    let words := (values.map fun (name, t) => name ++ '=' :: t) ++ fields
    let shown := mark ++ List.intercalate [' '] words ++ "\n"
    modify fun s => { s with world := place.elim s.world fun p => s.world.write p shown }

/-- Runs a simple command. -/
def simple (self : Evaluator) (isTested : Bool) (assignments : List (Text × Word))
    (words : List Word) (redirections : List Redirection) : ShellM Unit := do
  let fields ← callFields self words
  let complaints := (← get).descriptors.lookup 2
  match fields with
  | [] =>
    keepingDescriptors do
      if ← redirect self redirections then
        let values ← assignEach self assign assignments
        unless values.isEmpty do trace complaints values []
        setStatus ((← get).outputStatus.getD 0)
  | name :: arguments => do
    let isSpecial := name = "exec" || specialBuiltins.contains name
    let called : ShellM Unit :=
      if name = "command" then callCommand self isTested (arguments.length + 1) arguments
      else call self isTested true name arguments
    let act : ShellM Unit := do
      if (← redirect self redirections) = false then
        if isSpecial = true then throw .error
      else do
        if isSpecial = true then do
          trace complaints (← assignEach self assign assignments) fields
          called
        else
          withAssignments self assignments fun values => do
            trace complaints values fields
            called
    if name = "exec" ∧ arguments = [] then do
      act
      setStatus 0
    else keepingDescriptors act

/-- Runs the body of a loop once. Does the loop go on? -/
def round (body : ShellM Unit) : ShellM Bool := do
  try
    body
    return true
  catch
    | .leave n => if n > 1 then throw (.leave (n - 1)) else return false
    | .next n => if n > 1 then throw (.next (n - 1)) else return true
    | i => throw i

/-- Runs an action inside one more loop. -/
def inLoop (action : ShellM Unit) : ShellM Unit := do
  let loops := (← get).loops
  modify fun s => { s with loops := loops + 1 }
  let leave : ShellM Unit := modify fun s => { s with loops := loops }
  try
    action
    leave
  catch i => do
    leave
    throw i

/-- Runs a body as long as a test succeeds or fails, at most the given number of times. The status
is that of the last round. -/
def rounds (self : Evaluator) (isTested whileFails : Bool) (test body : Command) :
    Nat → Nat → ShellM Unit
  | 0, _ => throw .exhausted
  | n + 1, status => do
    let mut isOver := false
    let mut last := status
    let goesOn ← round do self.run true test
    if goesOn = false then isOver := true
    else if ((← get).status == 0) == whileFails then isOver := true
    else
      isOver := !(← round do self.run isTested body)
      last := (← get).status
    if isOver = true then setStatus last
    else rounds self isTested whileFails test body n last

/-- So many rounds may a loop have. -/
def roundLimit : Nat := 1000000

/-- Runs a body for each field. -/
def forEach (self : Evaluator) (isTested : Bool) (name : Text) (body : Command) :
    List Text → ShellM Unit
  | [] => return
  | t :: rest => do
    assign name t
    if ← round do self.run isTested body then forEach self isTested name body rest

/-- Does one of the patterns fit the text? -/
def fitsOne (self : Evaluator) (t : Text) : List Word → ShellM Bool
  | [] => return false
  | w :: rest => do
    let marks := Glyph.marks (← joiner) (← self.expand w)
    if Pattern.fits (Pattern.ofMarks marks) t = true then return true
    else fitsOne self t rest

/-- Runs the body of the first arm with a pattern that fits. -/
def choose (self : Evaluator) (isTested : Bool) (t : Text) :
    List (List Word × Command) → ShellM Unit
  | [] => setStatus 0
  | (patterns, body) :: rest => do
    if ← fitsOne self t patterns then
      match body with
      | .sequence [] => setStatus 0
      | _ => self.run isTested body
    else choose self isTested t rest

/-- Lets the standard input come from a text, if there is one. -/
def feed : Option Text → ShellM Unit
  | none => return
  | some t => do attach 0 (← connect (.source t))

/-- Runs commands one after the other, each with the output of the one before it as its input. -/
def stages (self : Evaluator) (isTested : Bool) : Option Text → List Command → ShellM Unit
  | _, [] => return
  | input, [c] => do
    setStatus (← fork do
      feed input
      asChild self (self.run isTested c))
  | input, c :: rest => do
    let (t, _) ← collect do
      feed input
      asChild self (self.run isTested c)
    stages self isTested (some t) rest

/-- Runs a command. -/
def act (self : Evaluator) (isTested : Bool) : Command → ShellM Unit
  | .simple line assignments words redirections => do
    modify fun s => { s with line := line, outputStatus := none }
    simple self isTested assignments words redirections
    leaveOnError isTested
  | .pipeline cs => do
    stages self isTested none cs
    leaveOnError isTested
  | .negation c => do
    self.run true c
    setStatus (if (← get).status = 0 then 1 else 0)
  | .conjunction a b => do
    self.run true a
    if (← get).status = 0 then self.run isTested b
  | .disjunction a b => do
    self.run true a
    if (← get).status ≠ 0 then self.run isTested b
  | .sequence cs => cs.forM fun c => self.run isTested c
  | .background c => do
    let process ← newProcess
    let status ← fork do
      attach 0 (← connect (.device .null (.ofMode .read)))
      asChild self (self.run false c)
    modify fun s => { s with latest := some (process, status) }
    setStatus 0
  | .subshell line c => do
    modify fun s => { s with line := line }
    setStatus (← fork (asChild self (self.run isTested c)))
    leaveOnError isTested
  | .conditional test body otherwise => do
    self.run true test
    if (← get).status = 0 then self.run isTested body
    else
      match otherwise with
      | some c => self.run isTested c
      | none => setStatus 0
  | .loop whileFails test body =>
    inLoop (rounds self isTested whileFails test body roundLimit 0)
  | .each name words body => do
    let fields ← match words with
      | some ws => fieldsOf self ws
      | none => pure (← get).arguments
    setStatus 0
    inLoop (forEach self isTested name body fields)
  | .choice subject arms => do
    let t ← plainText self subject
    choose self isTested t arms
  | .definition name body => do
    modify fun s =>
      { s with functions := (name, body) :: s.functions.filter fun f => f.1 != name }
    setStatus 0
  | .redirected line c redirections => do
    modify fun s => { s with line := line }
    keepingDescriptors do
      if ← redirect self redirections then self.run isTested c

/-- Runs a command, unless the shell is to read commands only. -/
def command (self : Evaluator) (isTested : Bool) (c : Command) : ShellM Unit := do
  unless ← hasOption 'n' do act self isTested c

/-- Runs commands that are nested at most as deep as given. -/
def evaluator : Nat → Evaluator
  | 0 => ⟨fun _ _ => throw .exhausted, fun _ => throw .exhausted⟩
  | n + 1 => ⟨fun b c => command (evaluator n) b c, fun w => glyphs (evaluator n) w⟩

/-- So deep may commands be nested in a run. -/
def depthLimit : Nat := 20000

end NodeClasses.Shell
