import NodeClasses.Shell.Arithmetic
import NodeClasses.Shell.State

/-!
# Conditions

Conditions compare texts and numbers and look at files. Operands and operators are told apart by
their places first: three words with an operator in the middle are a comparison, whatever else
they might be. `Condition.holds` judges a condition or says what is wrong with it.
-/

namespace NodeClasses.Shell.Condition
set_option autoImplicit false

/-- The operators in front of an operand. -/
def unaryOperators : List Text :=
  [ "-r", "-w", "-x", "-e", "-f", "-d", "-c", "-b", "-p", "-u", "-g", "-k", "-s", "-t", "-z",
    "-n", "-h", "-O", "-G", "-L", "-S"]

/-- The operators between two operands. -/
def binaryOperators : List Text :=
  [ "=", "!=", "<", ">", "-eq", "-ne", "-ge", "-gt", "-le", "-lt", "-nt", "-ot", "-ef"]

/-- What is wrong with a condition. -/
abbrev Judgement (α : Type) := Except Text α

/-- What a path leads to, if there is anything. -/
def entry? (s : Store) (path : Text) : Option Entry := (s.locate path).toOption.bind s.get?

/-- Is there a link at the path itself? -/
def isLink (s : Store) (path : Text) : Bool :=
  (s.locateName path).toOption.any fun here => s.get? here matches some (.link _)

/-- Does the path lead to a location with the given property? -/
def leadsTo (s : Store) (p : Location → Bool) (path : Text) : Bool := (s.locate path).toOption.any p

/-- The permission bits of what a path leads to. -/
def modeBehind (s : Store) (path : Text) : Nat := ((s.locate path).toOption.map s.modeAt).getD 0

/-- The integer that an operand spells. -/
def integer (t : Text) : Judgement Int :=
  match if t.isEmpty then none else Arithmetic.integer? t with
  | some n => .ok n
  | none => .error ("Illegal number: " ++ t)

/-- Is there a file or a directory with the given property? -/
def unary (s : Store) (operator t : Text) : Bool :=
  let there := entry? s t
  if operator = "-z" then t.isEmpty
  else if operator = "-n" then !t.isEmpty
  else if operator = "-e" ∨ operator = "-r" ∨ operator = "-w" ∨ operator = "-O" ∨ operator = "-G"
  then there.isSome
  else if operator = "-h" ∨ operator = "-L" then isLink s t
  else if operator = "-c" then leadsTo s (fun here => here == terminal || (deviceAt? here).isSome) t
  else if operator = "-p" then leadsTo s (fun here => (descriptorAt? here).isSome) t
  else if operator = "-u" then modeBehind s t &&& 0o4000 != 0
  else if operator = "-g" then modeBehind s t &&& 0o2000 != 0
  else if operator = "-k" then modeBehind s t &&& 0o1000 != 0
  else
    match there with
    | some (.file text mode) =>
      if operator = "-f" then !leadsTo s isSpecial t
      else if operator = "-s" then !text.isEmpty && !leadsTo s isSpecial t
      else operator == "-x" && mode &&& Store.executeBits != 0
    | some .directory => operator == "-d" || operator == "-s" || operator == "-x"
    | _ => false

/-- When the file that a path leads to was changed. -/
def changed? (s : Store) (path : Text) : Option Moment :=
  ((s.locate path).toOption.filter fun here => (s.get? here).isSome).map s.timeAt

/-- Was the first of two files changed later, where both are there? -/
def isNewer (s : Store) (a b : Text) : Bool :=
  match changed? s a, changed? s b with
  | some m, some n => decide (n < m)
  | _, _ => false

/-- Compares two operands. -/
def binary (s : Store) (a operator b : Text) : Judgement Bool :=
  let numbers (p : Int → Int → Bool) : Judgement Bool := do
    let m ← integer a
    let n ← integer b
    .ok (p m n)
  if operator = "=" then .ok (a == b)
  else if operator = "!=" then .ok (a != b)
  else if operator = "<" then .ok (decide (a.map Char.toNat < b.map Char.toNat))
  else if operator = ">" then .ok (decide (b.map Char.toNat < a.map Char.toNat))
  else if operator = "-eq" then numbers fun m n => m == n
  else if operator = "-ne" then numbers fun m n => m != n
  else if operator = "-ge" then numbers fun m n => decide (m ≥ n)
  else if operator = "-gt" then numbers fun m n => decide (m > n)
  else if operator = "-le" then numbers fun m n => decide (m ≤ n)
  else if operator = "-lt" then numbers fun m n => decide (m < n)
  else if operator = "-ef" then
    match s.locate a, s.locate b with
    | .ok here, .ok there => .ok (s.isSame here there)
    | _, _ => .ok false
  else if operator = "-nt" then .ok (isNewer s a b)
  else .ok (isNewer s b a)

/-- What a word is in front of others. -/
inductive Role where
  | finish
  | operand
  | unary
  | binary
  | negation
  | both
  | either
  | opening
  | closing
  deriving DecidableEq, Repr

/-- The role of an operator by itself. -/
def operatorRole? (t : Text) : Option Role :=
  if unaryOperators.contains t then some .unary
  else if binaryOperators.contains t then some .binary
  else if t = "!" then some .negation
  else if t = "-a" then some .both
  else if t = "-o" then some .either
  else if t = "(" then some .opening
  else if t = ")" then some .closing
  else none

/-- The role of the first word. -/
def role : List Text → Role
  | [] => .finish
  | t :: rest =>
    let isOperand := match rest with
      | [] => true
      | [_] => false
      | next :: _ => operatorRole? next == some .binary
    match operatorRole? t with
    | some .unary => if isOperand = true then .operand else .unary
    | some .opening => if rest.isEmpty then .operand else .opening
    | some r => r
    | none => .operand

/-- A judgement and the words behind it. -/
abbrev Parse := Judgement (Bool × List Text)

/-- Judges a comparison, a test of a file, or a text that is not empty. -/
def primary (s : Store) (whole : List Text → Parse) (ws : List Text) : Parse :=
  match role ws, ws with
  | .finish, _ => .ok (false, ws)
  | .opening, _ :: rest =>
    if role rest = .closing then .ok (false, rest.tail)
    else do
      let (holds, after) ← whole rest
      if role after = .closing then .ok (holds, after.tail) else .error "closing paren expected"
  | .unary, operator :: rest =>
    match rest with
    | [] => .error (operator ++ ": argument expected")
    | t :: after => .ok (unary s operator t, after)
  | _, a :: rest =>
    if role rest = .binary then
      match rest with
      | operator :: b :: after => do
        let holds ← binary s a operator b
        .ok (holds, after)
      | operator :: [] => .error (operator ++ ": argument expected")
      | [] => .ok (!a.isEmpty, rest)
    else .ok (!a.isEmpty, rest)
  | _, [] => .ok (false, [])

/-- Judges conditions of which all must hold, or of which one must, where the connecting word has
the given role. -/
def connected (operand : List Text → Parse) (r : Role) : Nat → Bool → List Text → Parse
  | n + 1, holds, t :: rest =>
    if role (t :: rest) = r then do
      let (next, after) ← operand rest
      connected operand r n (if r = .both then holds && next else holds || next) after
    else .ok (holds, t :: rest)
  | _, holds, ws => .ok (holds, ws)

/-- Judges a condition that is nested at most as deep as given. -/
def whole (s : Store) : Nat → List Text → Parse
  | 0, ws => .ok (false, ws)
  | n + 1, ws =>
    let negatable : List Text → Parse := fun ws =>
      let rec negated : Nat → List Text → Parse
        | 0, ws => primary s (whole s n) ws
        | k + 1, ws =>
          if role ws = .negation then do
            let (holds, after) ← negated k ws.tail
            .ok (!holds, after)
          else primary s (whole s n) ws
      negated ws.length ws
    let conjunction (ws : List Text) : Parse := do
      let (holds, after) ← negatable ws
      connected negatable .both after.length holds after
    do
      let (holds, after) ← conjunction ws
      connected conjunction .either after.length holds after

/-- Judges a condition, of which no words may be left over. -/
def judge (s : Store) (ws : List Text) : Judgement Bool := do
  let (holds, after) ← whole s (ws.length + 1) ws
  if after.isEmpty then .ok holds
  else .error (ws.getD (ws.length - after.length - 1) [] ++ ": unexpected operator")

/-- Does the condition hold? No words are a condition that does not. -/
def holds (s : Store) : List Text → Judgement Bool
  | [] => .ok false
  | [a, operator, b] =>
    if operatorRole? operator = some .binary then binary s a operator b
    else if a = "(" ∧ b = ")" then holds s [operator]
    else if a = "!" then (holds s [operator, b]).map not
    else judge s [a, operator, b]
  | [a, b, c, d] =>
    if a = "(" ∧ d = ")" then holds s [b, c]
    else if a = "!" then (holds s [b, c, d]).map not
    else judge s [a, b, c, d]
  | ws => judge s ws

end NodeClasses.Shell.Condition
