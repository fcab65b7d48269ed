import NodeClasses.Shell.Reader.Basic

/-!
# Reading words

A backslash and quotes take away the meaning of characters, and a dollar sign or a grave accent
starts a part that a run fills in. `Reader.parts` reads parts up to where a context ends.
-/

namespace NodeClasses.Shell
set_option autoImplicit false

namespace Context

/-- Do parts that are read here stand in quotes? -/
def isQuoted : Context → Bool
  | .bare | .braces => false
  | .quotedBraces | .quotes | .document | .sum => true

/-- Does the character end the context? -/
def endsAt (k : Context) (c : Char) : Bool :=
  match k with
  | .bare => [' ', '\t', '\n', ';', '&', '|', '<', '>', '(', ')'].contains c
  | .braces | .quotedBraces => c == '\x7d'
  | .quotes => c == '\x22'
  | .document | .sum => false

/-- Do single quotes quote here? -/
def hasSingleQuotes : Context → Bool
  | .bare | .braces => true
  | _ => false

/-- Do double quotes quote here? -/
def hasDoubleQuotes : Context → Bool
  | .bare | .braces | .quotedBraces => true
  | _ => false

/-- Does a backslash take away the meaning of the character? In front of any other character it
stands for itself. -/
def isQuotable (k : Context) (c : Char) : Bool :=
  match k with
  | .bare | .braces => true
  | .quotedBraces => ['$', '\x60', '\x22', '\\', '\x7d'].contains c
  | .quotes | .sum => ['$', '\x60', '\x22', '\\'].contains c
  | .document => ['$', '\x60', '\\'].contains c

/-- The context of a word between braces. -/
def inBraces (k : Context) : Context := if k.isQuoted = true then .quotedBraces else .braces

end Context

/-- Parts with one more in front, given from last to first. Texts next to each other are joined. -/
def Part.push (done : List Part) (p : Part) : List Part :=
  match done, p with
  | .text s q :: rest, .text t r => if q = r then .text (s ++ t) q :: rest else p :: done
  | _, _ => p :: done

namespace Reader

/-- A parameter with a name of one character that is no letter. -/
def isSpecial (c : Char) : Bool := ['@', '*', '#', '?', '-', '$', '!'].contains c

/-- Reads how a parameter is looked at, after its name. -/
def form (deeper : Nested) (k : Context) : Reader Form := do
  let fallback (emptyCounts : Bool) (kind : Fallback) : Reader Form := do
    skip 1
    return .orElse kind emptyCounts (← deeper.parts k.inBraces)
  let byMark (emptyCounts : Bool) : Text → Reader Form
    | '-' :: _ => fallback emptyCounts .use
    | '=' :: _ => fallback emptyCounts .assign
    | '?' :: _ => fallback emptyCounts .refuse
    | '+' :: _ => fallback emptyCounts .replace
    | _ => do
      let _ ← deeper.parts k.inBraces
      return .unknown
  let trim (mark : Char) (atEnd : Bool) : Reader Form := do
    skip 1
    let isLongest := (← rest).head? == some mark
    if isLongest = true then skip 1
    return .trimmed ⟨atEnd, isLongest⟩ (← deeper.parts .braces)
  match ← rest with
  | '\x7d' :: _ => do
    skip 1
    return .value
  | ':' :: _ => do
    skip 1
    byMark true (← rest)
  | '#' :: _ => trim '#' false
  | '%' :: _ => trim '%' true
  | mark => byMark false mark

/-- Reads a parameter between braces, after the opening one. -/
def braced (deeper : Nested) (k : Context) : Reader Part := do
  let parameter (name : Text) (f : Form) : Part := .parameter name f k.isQuoted
  let broken : Reader Part := do
    let _ ← deeper.parts k.inBraces
    return parameter [] .unknown
  let named (c : Char) : Reader Text :=
    if isNameStart c = true then takeWhile isNameRest
    else if c.isDigit = true then takeWhile Char.isDigit
    else do
      skip 1
      return [c]
  match ← rest with
  | '#' :: '\x7d' :: _ => do
    skip 2
    return parameter ['#'] .value
  | '#' :: c :: after =>
    let isLength := isNameRest c || (isSpecial c && after.head? == some '\x7d')
    if isLength = true then do
      skip 1
      let name ← named c
      if (← rest).head? = some '\x7d' then do
        skip 1
        return parameter name .length
      else broken
    else do
      skip 1
      return parameter ['#'] (← form deeper k)
  | c :: _ =>
    if isNameRest c = true ∨ isSpecial c = true then do
      let name ← named c
      return parameter name (← form deeper k)
    else broken
  | [] => broken

/-- Reads what a dollar sign starts, after the sign. -/
def dollar (deeper : Nested) (k : Context) : Reader Part := do
  match ← rest with
  | '(' :: '(' :: _ => do
    skip 2
    return .sum (← deeper.parts .sum) k.isQuoted
  | '(' :: _ => do
    skip 1
    return .output (← deeper.enclosed) k.isQuoted
  | '\x7b' :: _ => do
    skip 1
    braced deeper k
  | c :: _ =>
    if isNameStart c = true then return .parameter (← takeWhile isNameRest) .value k.isQuoted
    else if c.isDigit = true ∨ isSpecial c = true then do
      skip 1
      return .parameter [c] .value k.isQuoted
    else return .text ['$'] k.isQuoted
  | [] => return .text ['$'] k.isQuoted

/-- Takes the script between grave accents, given what is taken already. -/
def accentedStep (k : Context) (taken : Text) : Reader (Text ⊕ Text) := do
  match ← rest with
  | [] => refuse "EOF in backquote substitution"
  | '\x60' :: _ => do
    skip 1
    return .inr taken
  | '\\' :: '\n' :: _ => do
    skip 2
    return .inl taken
  | '\\' :: c :: _ => do
    skip 2
    if ['\\', '\x60', '$'].contains c || (k.isQuoted && c == '\x22') then return .inl (taken ++ [c])
    else return .inl (taken ++ ['\\', c])
  | c :: _ => do
    skip 1
    return .inl (taken ++ [c])

/-- Reads a script between grave accents, after the first one. -/
def accented (deeper : Nested) (k : Context) : Reader Part := do
  let script ← iterate (accentedStep k) []
  return .output (← within script (deeper.list true)) k.isQuoted

/-- Reads a text between single quotes, after the first one. -/
def singleQuoted : Reader Part := do
  let t ← takeWhile fun c => c != '\x27'
  if (← rest).isEmpty then refuse "Unterminated quoted string"
  skip 1
  return .text t true

/-- Reads the parts between double quotes, after the first one, behind the given ones. Quotes with
nothing in them are a part as well. -/
def doubleQuoted (deeper : Nested) (done : List Part) : Reader (List Part) := do
  let parts ← deeper.parts .quotes
  return (if parts.isEmpty then [.text [] true] else parts).foldl Part.push done

/-- The parts that were found from last to first, where the script ends. Braces that are open are
missed where they began. -/
def atEnd (k : Context) (line : Nat) (done : List Part) : Reader (List Part) :=
  match k with
  | .bare | .document => return done.reverse
  | .braces | .quotedBraces => refuseAt line "Missing '\x7d'"
  | .quotes => refuse "Unterminated quoted string"
  | .sum => refuse "Missing '))'"

/-- Reads one more part of what began in the given line. An arithmetic expression has parentheses
of its own, of which some may be open. -/
def partsStep (deeper : Nested) (k : Context) (line : Nat) (state : List Part × Nat) :
    Reader ((List Part × Nat) ⊕ List Part) := do
  let (done, isOpen) := state
  let grown (p : Part) : (List Part × Nat) ⊕ List Part := .inl (Part.push done p, isOpen)
  let plain (c : Char) (depth : Nat) : Reader ((List Part × Nat) ⊕ List Part) := do
    skip 1
    return .inl (Part.push done (.text [c] k.isQuoted), depth)
  match ← rest with
  | [] => return .inr (← atEnd k line done)
  | ['\\'] => do
    skip 1
    return grown (.text ['\\'] true)
  | '\\' :: '\n' :: _ => do
    skip 2
    return .inl state
  | '\\' :: c :: _ => do
    skip 2
    if k.isQuotable c = true then return grown (.text [c] true)
    else return grown (.text ['\\', c] true)
  | '$' :: _ => do
    skip 1
    return grown (← dollar deeper k)
  | '\x60' :: _ => do
    skip 1
    return grown (← accented deeper k)
  | c :: others =>
    if k.endsAt c = true then do
      if k ≠ .bare then skip 1
      return .inr done.reverse
    else if c = '\x27' ∧ k.hasSingleQuotes = true then do
      skip 1
      return grown (← singleQuoted)
    else if c = '\x22' ∧ k.hasDoubleQuotes = true then do
      skip 1
      return .inl (← doubleQuoted deeper done, isOpen)
    else if k = .sum ∧ c = '(' then plain c (isOpen + 1)
    else if k = .sum ∧ c = ')' then
      if isOpen = 0 ∧ others.head? = some ')' then do
        skip 2
        return .inr done.reverse
      else plain c (isOpen - 1)
    else plain c isOpen

/-- Reads parts up to where the context ends. -/
def parts (deeper : Nested) (k : Context) : Reader (List Part) := do
  iterate (partsStep deeper k (← get).line) ([], 0)

end Reader

end NodeClasses.Shell
