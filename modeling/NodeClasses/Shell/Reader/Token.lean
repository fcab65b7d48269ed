import NodeClasses.Shell.Reader.Word

/-!
# Reading tokens

A token is a word, a redirection with all that belongs to it, or an operator. The text that a
redirection takes from the script itself begins on the next line; it is cut out of the script as
soon as the redirection is read.
-/

namespace NodeClasses.Shell
set_option autoImplicit false

open Text

/-- What commands are made of. -/
inductive Token where
  | word (w : Word)
  | redirection (r : Redirection)
  /-- An operator between commands. -/
  | symbol (t : Text)
  | newline
  /-- The end of the script. -/
  | finish

/-- The words that have a meaning where a command may start. -/
def reservedWords : List Text :=
  ["!", "\x7b", "\x7d", "case", "do", "done", "elif", "else", "esac", "fi", "for", "if", "in",
    "then", "until", "while"]

/-- The operators between commands, longer ones before those that they begin with. -/
def symbols : List Text := ["&&", "&", "||", "|", ";;", ";", "(", ")"]

/-- The operators that redirect, longer ones before those that they begin with. -/
def redirectionMarks : List Text := ["<<-", "<<", "<&", "<>", "<", ">>", ">&", ">|", ">"]

namespace Token

/-- The reserved word that the token is, if it is one. -/
def keyword? : Token → Option Text
  | .word [.text t false] => if reservedWords.contains t then some t else none
  | _ => none

/-- The name of a token in messages. -/
def shown (t : Token) (areReserved : Bool) : Text :=
  let inMarks (t : Text) : Text := "\"" ++ t ++ "\""
  match t with
  | .word _ =>
    match t.keyword? with
    | some k => if areReserved = true then inMarks k else "word"
    | none => "word"
  | .redirection _ => "redirection"
  | .symbol s => inMarks s
  | .newline => "newline"
  | .finish => "end of file"

end Token

namespace Reader

/-- Skips blanks, comments, and line ends behind a backslash. -/
def blanksStep (_ : Unit) : Reader (Unit ⊕ Unit) := do
  match ← rest with
  | ' ' :: _ | '\t' :: _ => do
    skip 1
    return .inl ()
  | '\\' :: '\n' :: _ => do
    skip 2
    return .inl ()
  | '#' :: _ => do
    let _ ← takeWhile fun c => c != '\n'
    return .inr ()
  | _ => return .inr ()

/-- Skips to the next token. -/
def blanks : Reader Unit := iterate blanksStep ()

/-- Takes more of the word that ends a document. Is any of it quoted? -/
def delimiterStep (state : Text × Bool) : Reader ((Text × Bool) ⊕ (Text × Bool)) := do
  let (taken, isQuoted) := state
  let between (mark : Char) : Reader ((Text × Bool) ⊕ (Text × Bool)) := do
    skip 1
    let t ← takeWhile fun c => c != mark
    if (← rest).isEmpty then refuse "Unterminated quoted string"
    skip 1
    return .inl (taken ++ t, true)
  match ← rest with
  | [] => return .inr state
  | '\\' :: c :: _ => do
    skip 2
    return .inl (taken ++ [c], true)
  | c :: _ =>
    if Context.bare.endsAt c = true then return .inr state
    else if c = '\x27' ∨ c = '\x22' then between c
    else do
      skip 1
      return .inl (taken ++ [c], isQuoted)

/-- Cuts lines at the first one that satisfies `isEnd`. The results are the lines before it and
the lines after it, if there is such a line. -/
def cutLines (isEnd : Text → Bool) (lines : List Text) : List Text × Option (List Text) :=
  match lines.dropWhile fun l => !isEnd l with
  | [] => (lines, none)
  | _ :: after => (lines.takeWhile fun l => !isEnd l, some after)

/-- Reads a document that ends with the given line, and cuts it out of the script. Tabs at the
start of its lines may be left out. -/
def document (deeper : Nested) (delimiter : Text) (isQuoted dropsTabs : Bool) : Reader Word := do
  let here ← get
  match here.rest.dropWhile fun c => c != '\n' with
  | [] => return [.text [] true]
  | _ :: below =>
    let trimmed (l : Text) : Text := if dropsTabs = true then l.dropWhile (· == '\t') else l
    let (body, after) := cutLines (fun l => trimmed l == delimiter) (pieces (· == '\n') below)
    let lines := body.map trimmed
    let t : Text := if after.isSome = true then ofLines lines else List.intercalate ['\n'] lines
    let own := here.rest.takeWhile fun c => c != '\n'
    set { here with
      rest := own ++ '\n' :: List.intercalate ['\n'] (after.getD [])
      skipped := here.skipped + body.length + 1 }
    if isQuoted = true then return [.text t true] else within t (deeper.parts .document)

/-- Refuses a token. What is expected in its place may be said. -/
def refuseToken {α : Type} (t : Token) (areReserved : Bool) (expected : Option Text) :
    Reader α := do
  let more : Text := match expected with
    | none => []
    | some e => " (expecting " ++ e ++ ")"
  refuse (t.shown areReserved ++ " unexpected" ++ more)

/-- Takes the first of the given operators that stands here. -/
def operator? (operators : List Text) : Reader (Option Text) := do
  let t ← rest
  match operators.find? fun o => o.isPrefixOf t with
  | none => return none
  | some o => do
    skip o.length
    return some o

/-- Reads an operator or a word. -/
def plainToken (deeper : Nested) : Reader Token := do
  match ← rest with
  | [] => return .finish
  | '\n' :: _ => do
    skip 1
    return .newline
  | _ => do
    match ← operator? symbols with
    | some s => return .symbol s
    | none => return .word (← deeper.parts .bare)

/-- Reads the word behind a redirection. -/
def target (deeper : Nested) : Reader Word := do
  blanks
  match ← plainToken deeper with
  | .word w => return w
  | t => refuseToken t false none

/-- Reads what follows the operator of a redirection. -/
def redirection (deeper : Nested) (operator : Text) (descriptor : Option Nat) :
    Reader Redirection := do
  let input := descriptor.getD 0
  let output := descriptor.getD 1
  if operator = "<<" ∨ operator = "<<-" then
    blanks
    let start ← rest
    if start.isEmpty || (start.head?.map Context.bare.endsAt).getD false then
      let _ ← target deeper
    let (delimiter, isQuoted) ← iterate delimiterStep ([], false)
    return .document input (← document deeper delimiter isQuoted (operator == "<<-"))
  else
    let w ← target deeper
    if operator = "<&" then return .copy input w
    else if operator = ">&" then return .copy output w
    else if operator = "<" then return .file input .read w
    else if operator = "<>" then return .file input .both w
    else if operator = ">>" then return .file output .extend w
    else if operator = ">|" then return .file output .clobber w
    else return .file output .overwrite w

/-- Reads a token. A digit directly before a redirection is its descriptor. -/
def token (deeper : Nested) : Reader Token := do
  blanks
  let digit := match (← rest) with
    | d :: mark :: _ =>
      if d.isDigit && (mark == '<' || mark == '>') then some (d.toNat - '0'.toNat) else none
    | _ => none
  if digit.isSome = true then skip 1
  match ← operator? redirectionMarks with
  | some o => return .redirection (← redirection deeper o digit)
  | none => plainToken deeper

/-- The next token, which stays where it is. -/
def peek (deeper : Nested) : Reader Token := lookAhead (token deeper)

/-- Refuses the next token. -/
def refuseNext {α : Type} (deeper : Nested) (areReserved : Bool) (expected : Option Text) :
    Reader α := do
  refuseToken (← token deeper) areReserved expected

end Reader

end NodeClasses.Shell
