import NodeClasses.Shell.Syntax

/-!
# Arithmetic

Expressions over 64-bit integers with the operators of C. `Arithmetic.read` reads an expression,
and `Arithmetic.evaluate` computes its value and the variables that it sets. What a conditional
operator passes over is not evaluated.
-/

namespace NodeClasses.Shell.Arithmetic
set_option autoImplicit false

/-- An expression. -/
inductive Expression where
  | number (n : Int)
  | name (x : Text)
  | unary (operator : Text) (e : Expression)
  | binary (operator : Text) (left right : Expression)
  | choose (test yes no : Expression)
  /-- Sets a variable, through an operator if one is given. -/
  | assign (x : Text) (operator : Text) (e : Expression)
  deriving Repr

/-- What an expression is made of. -/
inductive Token where
  | number (n : Int)
  | name (x : Text)
  | operator (t : Text)
  deriving DecidableEq, Repr

/-- The operators, longer ones before those that they begin with. -/
def operators : List Text :=
  ["<<=", ">>=", "<<", ">>", "<=", ">=", "==", "!=", "&&", "||", "+=", "-=", "*=", "/=", "%=",
    "&=", "^=", "|=", "+", "-", "*", "/", "%", "<", ">", "&", "^", "|", "~", "!", "?", ":", "=",
    "(", ")"].map Text.ofString

/-- The value of a digit in some base up to sixteen. -/
def digit? (base : Nat) (c : Char) : Option Nat :=
  let value :=
    if c.isDigit then c.toNat - '0'.toNat
    else if 'a' ≤ c ∧ c ≤ 'f' then c.toNat - 'a'.toNat + 10
    else if 'A' ≤ c ∧ c ≤ 'F' then c.toNat - 'A'.toNat + 10
    else base
  if value < base then some value else none

/-- The greatest integer. -/
def greatest : Int := Int64.maxValue.toInt

/-- The least integer. -/
def least : Int := Int64.minValue.toInt

/-- An integer that is too large or too small wraps around. -/
def wrap (n : Int) : Int := (Int64.ofInt n).toInt

/-- The nearest integer that fits. -/
def clamp (n : Int) : Int := max least (min greatest n)

/-- The number that the digits at the start of a text spell, and the rest. -/
def digits (base : Nat) : Nat → Text → Nat × Text
  | n, [] => (n, [])
  | n, c :: rest =>
    match digit? base c with
    | none => (n, c :: rest)
    | some d => digits base (base * n + d) rest

/-- The number at the start of a text that starts with a digit, and the rest. A zero starts an
octal number, or with an `x` a hexadecimal one. -/
def number (t : Text) : Nat × Text :=
  match t with
  | '0' :: x :: d :: rest =>
    if (x == 'x' || x == 'X') && (digit? 16 d).isSome then digits 16 0 (d :: rest)
    else digits 8 0 (x :: d :: rest)
  | '0' :: rest => digits 8 0 rest
  | _ => digits 10 0 t

/-- The integer that a text spells, with blanks around it and perhaps a sign. An empty text spells
zero. -/
def integer? (t : Text) : Option Int :=
  let isBlank (c : Char) : Bool := [' ', '\t', '\n', '\r', '\x0b', '\x0c'].contains c
  let bare := t.dropWhile isBlank
  let (sign, unsigned) : Int × Text := match bare with
    | '-' :: rest => (-1, rest)
    | '+' :: rest => (1, rest)
    | _ => (1, bare)
  if bare.isEmpty then some 0
  else if (unsigned.head?.map Char.isDigit).getD false then
    let (n, rest) := number unsigned
    if rest.all isBlank then some (clamp (sign * n)) else none
  else none

/-- Cuts an expression into tokens, at most the given number. What is no token ends the list, and
then the second result is false. -/
def tokensOf : Nat → Text → List Token × Bool
  | 0, t => ([], t.isEmpty)
  | _, [] => ([], true)
  | n + 1, c :: rest =>
    let after (t : Token) (more : Text) : List Token × Bool :=
      let (ts, isWhole) := tokensOf n more
      (t :: ts, isWhole)
    if c = ' ' ∨ c = '\t' ∨ c = '\n' then tokensOf n rest
    else if c.isDigit then
      let (value, more) := number (c :: rest)
      after (.number (clamp value)) more
    else if isNameStart c = true then
      let x := (c :: rest).takeWhile isNameRest
      after (.name x) ((c :: rest).drop x.length)
    else
      match operators.find? fun o => o.isPrefixOf (c :: rest) with
      | none => ([], false)
      | some o => after (.operator o) ((c :: rest).drop o.length)

/-- The operators between two operands, from those that bind loosest. -/
def levels : List (List Text) :=
  [["||"], ["&&"], ["|"], ["^"], ["&"], ["==", "!="], ["<", ">", "<=", ">="], ["<<", ">>"],
    ["+", "-"], ["*", "/", "%"]]

/-- The operator behind an assignment, which is empty for a plain one. -/
def assigning? (o : Text) : Option Text :=
  if o = "=" then some []
  else if (["<<=", ">>=", "+=", "-=", "*=", "/=", "%=", "&=", "^=", "|="] : List Text).contains o
  then some o.dropLast
  else none

/-- What is read, with the tokens that are left, or what was expected in vain. -/
abbrev Read := Except Text (Expression × List Token)

/-- Reads the operators of one level and their right operands behind a left one. -/
def chain (operand : List Token → Read) (level : List Text) : Nat → Expression → List Token → Read
  | 0, e, ts => .ok (e, ts)
  | n + 1, e, .operator o :: ts =>
    if level.contains o then do
      let (right, rest) ← operand ts
      chain operand level n (.binary o e right) rest
    else .ok (e, .operator o :: ts)
  | _, e, ts => .ok (e, ts)

/-- Reads an expression of operators from the given levels on. -/
def binaries (operand : List Token → Read) : List (List Text) → List Token → Read
  | [], ts => operand ts
  | level :: tighter, ts => do
    let (left, rest) ← binaries operand tighter ts
    chain (binaries operand tighter) level rest.length left rest

/-- Reads an operand, given how to read what is in parentheses. -/
def operand (expression : List Token → Read) : Nat → List Token → Read
  | n + 1, .operator o :: ts =>
    if (["!", "~", "+", "-"] : List Text).contains o then do
      let (e, rest) ← operand expression n ts
      .ok (.unary o e, rest)
    else if o = "(" then do
      let (e, rest) ← expression ts
      match rest with
      | .operator [')'] :: after => .ok (e, after)
      | _ => .error "expecting ')'"
    else .error "expecting primary"
  | _, .number n :: ts => .ok (.number n, ts)
  | _, .name x :: ts => .ok (.name x, ts)
  | _, _ => .error "expecting primary"

/-- Reads an expression that is nested at most as deep as given. -/
def expression : Nat → List Token → Read
  | 0, _ => .error "expecting primary"
  | n + 1, ts =>
    let choice : Read := do
      let (test, rest) ← binaries (operand (expression n) ts.length) levels ts
      match rest with
      | .operator ['?'] :: after => do
        let (yes, rest) ← expression n after
        match rest with
        | .operator [':'] :: after => do
          let (no, rest) ← expression n after
          .ok (.choose test yes no, rest)
        | _ => .error "expecting ':'"
      | _ => .ok (test, rest)
    match ts with
    | .name x :: .operator o :: after =>
      match assigning? o with
      | some operator => do
        let (e, rest) ← expression n after
        .ok (.assign x operator e, rest)
      | none => choice
    | _ => choice

/-- Reads a whole expression. -/
def read (t : Text) : Except Text Expression := do
  let (ts, isWhole) := tokensOf (t.length + 1) t
  let (e, rest) ← expression (ts.length + 1) ts
  if rest.isEmpty && isWhole then .ok e else .error "expecting EOF"

/-- Why an expression has no value. -/
inductive Fault where
  | divisionByZero
  /-- A variable holds no number. -/
  | noNumber (value : Text)
  deriving DecidableEq, Repr

/-- The value of an operator between two integers that are known. -/
def apply (operator : Text) (a b : Int) : Except Fault Int :=
  let truth (p : Bool) : Except Fault Int := .ok (if p = true then 1 else 0)
  let bits (f : BitVec 64 → BitVec 64 → BitVec 64) : Except Fault Int :=
    .ok (f (BitVec.ofInt 64 a) (BitVec.ofInt 64 b)).toInt
  let places := (b % 64).toNat
  if operator = "+" then .ok (wrap (a + b))
  else if operator = "-" then .ok (wrap (a - b))
  else if operator = "*" then .ok (wrap (a * b))
  else if operator = "/" then if b = 0 then .error .divisionByZero else .ok (wrap (a.tdiv b))
  else if operator = "%" then if b = 0 then .error .divisionByZero else .ok (a.tmod b)
  else if operator = "<<" then .ok (wrap (a * (1 <<< places : Nat)))
  else if operator = ">>" then .ok (a >>> places)
  else if operator = "<" then truth (a < b)
  else if operator = ">" then truth (a > b)
  else if operator = "<=" then truth (a ≤ b)
  else if operator = ">=" then truth (a ≥ b)
  else if operator = "==" then truth (a == b)
  else if operator = "!=" then truth (a != b)
  else if operator = "&" then bits BitVec.and
  else if operator = "^" then bits BitVec.xor
  else if operator = "|" then bits BitVec.or
  else .ok b

/-- The value of an operator in front of an integer. -/
def applyUnary (operator : Text) (a : Int) : Int :=
  if operator = "!" then if a = 0 then 1 else 0
  else if operator = "~" then -a - 1
  else if operator = "-" then wrap (-a)
  else a

/-- Variables that an expression set, the last one first. -/
abbrev Settings := List (Text × Int)

/-- The value of a variable, given those that are set and the texts of the others. -/
def valueIn (valueOf : Text → Text) (set : Settings) (x : Text) : Except Fault Int :=
  match set.lookup x, integer? (valueOf x) with
  | some n, _ => .ok n
  | none, some n => .ok n
  | none, none => .error (.noNumber (valueOf x))

/-- The value of an expression and the variables that it sets, given those that are set before it
and the texts of the others. -/
def evaluate (valueOf : Text → Text) : Expression → Settings → Except Fault (Int × Settings)
  | .number n, set => .ok (n, set)
  | .name x, set => do
    let n ← valueIn valueOf set x
    .ok (n, set)
  | .unary o e, set => do
    let (n, set) ← evaluate valueOf e set
    .ok (applyUnary o n, set)
  | .binary o left right, set => do
    let (a, set) ← evaluate valueOf left set
    if o = "&&" ∧ a = 0 then .ok (0, set)
    else if o = "||" ∧ a ≠ 0 then .ok (1, set)
    else do
      let (b, set) ← evaluate valueOf right set
      if o = "&&" ∨ o = "||" then .ok (if b = 0 then 0 else 1, set)
      else do
        let n ← apply o a b
        .ok (n, set)
  | .choose test yes no, set => do
    let (n, set) ← evaluate valueOf test set
    if n ≠ 0 then evaluate valueOf yes set else evaluate valueOf no set
  | .assign x o e, set => do
    let (b, set) ← evaluate valueOf e set
    if o = "" then .ok (b, (x, b) :: set)
    else do
      let a ← valueIn valueOf set x
      let n ← apply o a b
      .ok (n, (x, n) :: set)

end NodeClasses.Shell.Arithmetic
