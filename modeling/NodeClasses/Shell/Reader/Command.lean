import NodeClasses.Shell.Reader.Token

/-!
# Reading commands

`Reader.line?` reads a script up to the end of a line at which no command is open. A script is run
line by line, so what a later line gets wrong does not keep an earlier one from running.
-/

namespace NodeClasses.Shell
set_option autoImplicit false

/-- The commands of the shell itself that no function can replace. -/
def specialBuiltins : List Text :=
  [".", ":", "break", "continue", "eval", "exec", "exit", "export", "local", "readonly", "return",
    "set", "shift", "trap", "unset"]

namespace Reader

/-- Skips the ends of lines. -/
def newlines (deeper : Nested) : Reader Unit :=
  iterate (fun _ => do
    match ← peek deeper with
    | .newline => do
      let _ ← token deeper
      return .inl ()
    | _ => return .inr ()) ()

/-- Takes a reserved word or refuses what stands in its place. -/
def keyword (deeper : Nested) (k : Text) : Reader Unit := do
  if (← peek deeper).keyword? = some k then
    let _ ← token deeper
  else refuseNext deeper true (some ("\"" ++ k ++ "\""))

/-- Takes a closing parenthesis or refuses what stands in its place. -/
def closing (deeper : Nested) (areReserved : Bool) : Reader Unit := do
  match ← peek deeper with
  | .symbol [')'] => do
    let _ ← token deeper
  | _ => refuseNext deeper areReserved (some "\")\"")

/-- What a simple command has so far. -/
structure Call where
  assignments : List (Text × Word)
  words : List Word
  redirections : List Redirection

/-- The name and the value of an assignment, if the word is one. -/
def assignment? : Word → Option (Text × Word)
  | .text t false :: more =>
    let name := t.takeWhile fun c => c != '='
    match t.dropWhile fun c => c != '=' with
    | '=' :: value =>
      if isName name = true then
        some (name, if value.isEmpty then more else .text value false :: more)
      else none
    | _ => none
  | _ => none

/-- The name of a function that the word may give. -/
def functionName? : Word → Option Text
  | [.text t false] => if isName t && !specialBuiltins.contains t then some t else none
  | _ => none

/-- Reads one more word or redirection of a simple command that starts in the given line, or turns
the word before parentheses into the name of a function. -/
def callStep (deeper : Nested) (line : Nat) (c : Call) : Reader (Call ⊕ Command) := do
  let finished : Call ⊕ Command := .inr (.simple line c.assignments c.words c.redirections)
  match ← peek deeper with
  | .word w => do
    let _ ← token deeper
    match if c.words.isEmpty then assignment? w else none with
    | some a => return .inl { c with assignments := c.assignments ++ [a] }
    | none => return .inl { c with words := c.words ++ [w] }
  | .redirection _ => do
    match ← token deeper with
    | .redirection r => return .inl { c with redirections := c.redirections ++ [r] }
    | _ => return finished
  | .symbol ['('] =>
    match c with
    | ⟨[], [w], []⟩ => do
      let _ ← token deeper
      closing deeper false
      match functionName? w with
      | none => refuse "Bad function name"
      | some name => do
        newlines deeper
        return .inr (.definition name (← deeper.command))
    | _ => return finished
  | _ => return finished

/-- Reads the redirections behind a command. -/
def redirections (deeper : Nested) : Reader (List Redirection) :=
  iterate (fun done => do
    match ← peek deeper with
    | .redirection _ => do
      match ← token deeper with
      | .redirection r => return .inl (done ++ [r])
      | _ => return .inr done
    | _ => return .inr done) []

/-- Reads a test and what runs if it succeeds. -/
def branch (deeper : Nested) : Reader (Command × Command) := do
  let test ← deeper.list false
  keyword deeper "then"
  return (test, ← deeper.list false)

/-- Reads the branches of a conditional command, after the first word. -/
def conditional (deeper : Nested) : Reader Command := do
  let branches ← iterate (fun done => do
    if (← peek deeper).keyword? = some "elif" then
      let _ ← token deeper
      return .inl (done ++ [← branch deeper])
    else return .inr done) [← branch deeper]
  let otherwise : Option Command ←
    if (← peek deeper).keyword? = some "else" then do
      let _ ← token deeper
      pure (some (← deeper.list false))
    else pure none
  keyword deeper "fi"
  let chained := branches.foldr (fun b rest => some (Command.conditional b.1 b.2 rest)) otherwise
  return chained.getD default

/-- Reads the test and the body of a loop, after its first word. -/
def loop (deeper : Nested) (whileFails : Bool) : Reader Command := do
  let test ← deeper.list false
  keyword deeper "do"
  let body ← deeper.list false
  keyword deeper "done"
  return .loop whileFails test body

/-- Reads the words that a loop runs over, up to the end of the line or a semicolon. -/
def fields (deeper : Nested) : Reader (List Word) := do
  let words ← iterate (fun done => do
    match ← peek deeper with
    | .word w => do
      let _ ← token deeper
      return .inl (done ++ [w])
    | _ => return .inr done) []
  match ← peek deeper with
  | .newline | .symbol [';'] => do
    let _ ← token deeper
    return words
  | _ => refuseNext deeper false none

/-- Reads a loop over words, after its first word. -/
def each (deeper : Nested) : Reader Command := do
  let name ← match ← token deeper with
    | .word [.text t false] => if isName t = true then pure t else refuse "Bad for loop variable"
    | _ => refuse "Bad for loop variable"
  newlines deeper
  let words : Option (List Word) ← match ← peek deeper with
    | .symbol [';'] => do
      let _ ← token deeper
      pure none
    | t =>
      if t.keyword? = some "in" then do
        let _ ← token deeper
        pure (some (← fields deeper))
      else pure none
  newlines deeper
  keyword deeper "do"
  let body ← deeper.list false
  keyword deeper "done"
  return .each name words body

/-- Reads the patterns of an arm, up to the closing parenthesis. -/
def patterns (deeper : Nested) : Reader (List Word) :=
  iterate (fun done => do
    let w ← match ← token deeper with
      | .word w => pure w
      | _ => pure []
    match ← peek deeper with
    | .symbol ['|'] => do
      let _ ← token deeper
      return .inl (done ++ [w])
    | _ => do
      closing deeper false
      return .inr (done ++ [w])) []

/-- Reads one more arm of a choice. -/
def armStep (deeper : Nested) (done : List (List Word × Command)) :
    Reader (List (List Word × Command) ⊕ List (List Word × Command)) := do
  newlines deeper
  let t ← peek deeper
  if t.keyword? = some "esac" then
    let _ ← token deeper
    return .inr done
  else
    match t with
    | .symbol ['('] => do
      let _ ← token deeper
    | _ => pure ()
    let ps ← patterns deeper
    let body ← deeper.list true
    let arms := done ++ [(ps, body)]
    newlines deeper
    let next ← peek deeper
    match next with
    | .symbol [';', ';'] => do
      let _ ← token deeper
      return .inl arms
    | _ =>
      if next.keyword? = some "esac" then return .inl arms
      else refuseNext deeper true (some "\";;\"")

/-- Reads a choice, after its first word. -/
def choice (deeper : Nested) : Reader Command := do
  let subject ← match ← peek deeper with
    | .word w => do
      let _ ← token deeper
      pure w
    | _ => refuseNext deeper false (some "word")
  newlines deeper
  keyword deeper "in"
  return .choice subject (← iterate (armStep deeper) [])

/-- Reads a command that a reserved word or a parenthesis starts. -/
def compound (deeper : Nested) (line : Nat) : Reader (Option Command) := do
  let t ← peek deeper
  match t with
  | .symbol ['('] => do
    let _ ← token deeper
    let body ← deeper.list false
    closing deeper true
    return some (.subshell line body)
  | _ =>
    match t.keyword? with
    | none => return none
    | some k =>
      let after (r : Reader Command) : Reader (Option Command) := do
        let _ ← token deeper
        return some (← r)
      if k = "if" then after (conditional deeper)
      else if k = "while" then after (loop deeper false)
      else if k = "until" then after (loop deeper true)
      else if k = "for" then after (each deeper)
      else if k = "case" then after (choice deeper)
      else if k = "\x7b" then after do
        let body ← deeper.list false
        keyword deeper "\x7d"
        return body
      else refuseNext deeper true none

/-- Reads one command with its redirections. -/
def command (deeper : Nested) : Reader Command := do
  let line := (← lookAhead (do
    let _ ← token deeper
    get)).line
  match ← peek deeper with
  | .newline | .finish => refuseNext deeper true none
  | .symbol s =>
    if s ≠ "(" then refuseNext deeper true none
  | _ => pure ()
  match ← compound deeper line with
  | none => iterate (callStep deeper line) ⟨[], [], []⟩
  | some c =>
    match ← redirections deeper with
    | [] => return c
    | rs => return .redirected line c rs

/-- Reads commands with vertical bars between them. -/
def stages (deeper : Nested) : Reader Command := do
  let commands ← iterate (fun done => do
    let c ← command deeper
    match ← peek deeper with
    | .symbol ['|'] => do
      let _ ← token deeper
      newlines deeper
      return .inl (done ++ [c])
    | _ => return .inr (done ++ [c])) []
  match commands with
  | [c] => return c
  | cs => return .pipeline cs

/-- Reads a pipeline, which an exclamation mark may negate. -/
def pipeline (deeper : Nested) : Reader Command := do
  if (← peek deeper).keyword? = some "!" then
    let _ ← token deeper
    return .negation (← stages deeper)
  else stages deeper

/-- Reads pipelines that depend on each other. -/
def andOr (deeper : Nested) : Reader Command := do
  let first ← pipeline deeper
  iterate (fun done => do
    let second : Reader Command := do
      let _ ← token deeper
      newlines deeper
      pipeline deeper
    match ← peek deeper with
    | .symbol ['&', '&'] => return .inl (.conjunction done (← second))
    | .symbol ['|', '|'] => return .inl (.disjunction done (← second))
    | _ => return .inr done) first

/-- Does the token end a list of commands inside a command? -/
def endsList (t : Token) : Bool :=
  match t with
  | .finish | .symbol [')'] | .symbol [';', ';'] => true
  | _ =>
    match t.keyword? with
    | none => false
    | some k =>
      ([ "then", "fi", "else", "elif", "do", "done", "esac", "\x7d"] : List Text).contains k

/-- Reads one more command of a list. A list on its own ends with its line, and one inside a
command with a token that belongs to the command. -/
def listStep (deeper : Nested) (isLine mayBeEmpty : Bool) (done : List Command) :
    Reader (List Command ⊕ List Command) := do
  unless isLine do newlines deeper
  let t ← peek deeper
  match t with
  | .newline => do
    let _ ← token deeper
    return .inr done
  | _ =>
    if t matches .finish then return .inr done
    else if !isLine && (mayBeEmpty || !done.isEmpty) && endsList t then return .inr done
    else do
      let c ← andOr deeper
      match ← peek deeper with
      | .symbol ['&'] => do
        let _ ← token deeper
        return .inl (done ++ [.background c])
      | .symbol [';'] => do
        let _ ← token deeper
        return .inl (done ++ [c])
      | .newline | .finish => return .inl (done ++ [c])
      | _ => if isLine = true then refuseNext deeper true none else return .inr (done ++ [c])

/-- Reads the commands inside a command. -/
def list (deeper : Nested) (mayBeEmpty : Bool) : Reader Command :=
  return .sequence (← iterate (listStep deeper false mayBeEmpty) [])

/-- Reads commands up to a closing parenthesis, and the parenthesis. -/
def enclosed (deeper : Nested) : Reader Command := do
  let body ← list deeper true
  closing deeper true
  return body

/-- Readers for what is nested at most as deep as given. -/
def nested : Nat → Nested
  | 0 =>
    ⟨fun _ => refuse "nested too deep", fun _ => refuse "nested too deep",
      refuse "nested too deep", refuse "nested too deep"⟩
  | n + 1 =>
    ⟨fun k => parts (nested n) k, fun b => list (nested n) b, fun c => enclosed (nested n) c,
      fun c => command (nested n) c⟩

/-- Reads the commands of a line. There are none where the script ends. -/
def line? : Reader (Option Command) := do
  if (← rest).isEmpty then return none
  let deeper := nested (← get).room
  return some (.sequence (← iterate (listStep deeper true true) []))

end Reader

end NodeClasses.Shell
