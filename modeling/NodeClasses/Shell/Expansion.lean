import NodeClasses.Shell.Arithmetic
import NodeClasses.Shell.Script
import NodeClasses.Store.Listing

/-!
# What words stand for

A word stands for glyphs, which parameters, commands and expressions fill in. Where a list of
words is wanted, the glyphs are split into fields, and a field that is a pattern for paths stands
for the paths that fit it, sorted.
-/

namespace NodeClasses.Shell
set_option autoImplicit false

open Text

/-- What a parameter holds: one value, if it is set, or all arguments. -/
inductive Content where
  | one (t : Option Text)
  | all (ts : List Text)
  deriving DecidableEq, Repr

namespace Content

/-- What the parameter with the given name holds. -/
def ofName (s : State) (name : Text) : Content :=
  match name with
  | ['@'] | ['*'] => .all s.arguments
  | ['#'] => .one (some (ofNat s.arguments.length))
  | ['?'] => .one (some (ofNat s.status))
  | ['-'] => .one (some (optionLetters.filter s.options.contains))
  | ['$'] => .one (some (ofNat s.process))
  | ['!'] => .one (s.latest.map fun p => ofNat p.1)
  | c :: _ =>
    if c.isDigit = true then
      let n := (Arithmetic.digits 10 0 name).1
      .one (if n = 0 then some s.name else s.arguments[n - 1]?)
    else .one (s.value? name)
  | [] => .one none

/-- Is there a value? An empty one may count as none. -/
def isSet (emptyCounts : Bool) : Content → Bool
  | .one none => false
  | .one (some t) => !(emptyCounts && t.isEmpty)
  | .all ts => !(ts.isEmpty || emptyCounts && ts.all List.isEmpty)

/-- The values with a boundary between them. -/
def glyphs (isQuoted : Bool) : Content → List Glyph
  | .one t => Glyph.ofValue (t.getD []) isQuoted
  | .all ts => List.intercalate [.boundary] (ts.map fun t => Glyph.ofValue t isQuoted)

/-- The contents with each value changed. -/
def map (f : Text → Text) : Content → Content
  | .one t => .one (t.map f)
  | .all ts => .all (ts.map f)

end Content

/-- The glyphs of a parameter. Between quotes, `*` stands for one field. -/
def parameterGlyphs (name : Text) (content : Content) (isQuoted : Bool) : ShellM (List Glyph) := do
  if isQuoted = true ∧ name = "*" then
    return Glyph.ofText (Glyph.text (← joiner) (content.glyphs true)) true
  else return content.glyphs isQuoted

/-- Refuses a parameter that is not set, where that is asked for. -/
def checkSet (name : Text) (content : Content) : ShellM Unit := do
  if content = .one none then
    if ← hasOption 'u' then fail (name ++ ": parameter not set")

/-- The glyphs of a word that takes the place of a parameter. Outside of quotes all of it may be
split. -/
def replacement (self : Evaluator) (word : Word) (isQuoted : Bool) : ShellM (List Glyph) := do
  let gs ← self.expand word
  if isQuoted = true then return gs
  else return gs.map fun g =>
    match g with
    | .char c false _ => .char c false true
    | g => g

/-- The glyphs of a parameter that is looked at in some way. -/
def formGlyphs (self : Evaluator) (name : Text) (isQuoted : Bool) : Form → ShellM (List Glyph)
  | .value => do
    let content := Content.ofName (← get) name
    checkSet name content
    parameterGlyphs name content isQuoted
  | .length => do
    let content := Content.ofName (← get) name
    checkSet name content
    let t := Glyph.text (← joiner) (content.glyphs true)
    return Glyph.ofValue (ofNat (t.length)) isQuoted
  | .orElse fallback emptyCounts word => do
    let content := Content.ofName (← get) name
    let isSet := content.isSet emptyCounts
    match fallback with
    | .replace => if isSet = true then replacement self word isQuoted else return []
    | .use =>
      if isSet = true then parameterGlyphs name content isQuoted
      else replacement self word isQuoted
    | .assign =>
      if isSet = true then parameterGlyphs name content isQuoted
      else if isName name = false then fail (name ++ ": bad variable name")
      else do
        let t ← plainText self word
        assign name t
        return Glyph.ofValue t isQuoted
    | .refuse =>
      if isSet = true then parameterGlyphs name content isQuoted
      else do
        let t ← plainText self word
        let reason : Text :=
          if word.isEmpty = false then t
          else if emptyCounts = true then "parameter not set or null"
          else "parameter not set"
        fail (name ++ ": " ++ reason)
  | .trimmed piece word => do
    let content := Content.ofName (← get) name
    checkSet name content
    let pattern := Pattern.ofMarks (Glyph.marks (← joiner) (← self.expand word))
    let cut := if piece.atEnd = true then Pattern.dropEnd else Pattern.dropStart
    parameterGlyphs name (content.map (cut pattern piece.isLongest)) isQuoted
  | .unknown => fail "Bad substitution"

/-- The text without the ends of lines at its end. -/
def dropLineEnds (t : Text) : Text := (t.reverse.dropWhile (· == '\n')).reverse

/-- The value of an arithmetic expression. -/
def sumText (expression : Text) : ShellM Text := do
  let refuse (reason : Text) : ShellM Text :=
    fail ("arithmetic expression: " ++ reason ++ ": \"" ++ expression ++ "\"")
  match Arithmetic.read expression with
  | .error reason => refuse reason
  | .ok e =>
    let s ← get
    match Arithmetic.evaluate (fun x => (s.value? x).getD []) e [] with
    | .error .divisionByZero => refuse "division by zero"
    | .error (.noNumber value) => fail ("Illegal number: " ++ value)
    | .ok (n, set) => do
      for (x, value) in set.reverse do
        assign x (toString value).toList
      return (toString n).toList

/-- The glyphs of a part of a word. -/
def partGlyphs (self : Evaluator) : Part → ShellM (List Glyph)
  | .text t isQuoted => return Glyph.ofText t isQuoted
  | .parameter name form isQuoted => formGlyphs self name isQuoted form
  | .output body isQuoted => do
    let (t, status) ← collect (asChild self (self.run false body))
    modify fun s => { s with outputStatus := some status }
    return Glyph.ofValue (dropLineEnds (t.filter fun c => c != '\x00')) isQuoted
  | .sum expression isQuoted => do
    let t ← plainText self expression
    return Glyph.ofValue (← sumText t) isQuoted

/-- The home directories of the users that every system has. -/
def homes : List (Text × Text) :=
  [("root", "/root"), ("daemon", "/usr/sbin"), ("bin", "/bin"), ("sys", "/dev"), ("sync", "/bin"),
    ("games", "/usr/games"), ("man", "/var/cache/man"), ("lp", "/var/spool/lpd"),
    ("mail", "/var/mail"), ("news", "/var/spool/news"), ("nobody", "/nonexistent")]

/-- The home directory of a user, or of the one that runs the shell. -/
def homeOf? (s : State) (user : Text) : Option Text :=
  if user.isEmpty then s.value? "HOME" else homes.lookup user

/-- A text outside of quotes with a home directory in place of a tilde at its start. It reaches up
to the end of the word or a part follows. -/
def textWithHome (s : State) (isLast : Bool) (t : Text) : List Part :=
  match t with
  | '~' :: rest =>
    let user := rest.takeWhile fun c => c != '/'
    let path := rest.dropWhile fun c => c != '/'
    if path.isEmpty && !isLast then [.text t false]
    else
      match homeOf? s user with
      | some home => (if home.isEmpty then [] else [.text home true]) ++ [.text path false]
      | none => [.text t false]
  | _ => [.text t false]

/-- A word with a home directory in place of a tilde at its start. -/
def withHome (s : State) (w : Word) : Word :=
  match w with
  | .text t false :: more => textWithHome s more.isEmpty t ++ more
  | _ => w

/-- Pieces that colons separate, each with a home directory in place of a tilde at its start. The
first one may start inside a word, and what is behind the last one may belong to it. -/
def piecesWithHomes (s : State) (isStart isLast : Bool) : List Text → List Part
  | [] => []
  | t :: rest =>
    let here := if isStart = true then textWithHome s (isLast || !rest.isEmpty) t
      else [.text t false]
    let gap : List Part := if rest.isEmpty then [] else [.text [':'] false]
    here ++ gap ++ piecesWithHomes s true isLast rest

/-- A value with home directories in place of tildes at its start and behind colons. -/
def withHomes (s : State) (w : Word) : Word :=
  let rec go : Bool → Word → Word
    | _, [] => []
    | isStart, .text t false :: more =>
      piecesWithHomes s isStart more.isEmpty (pieces (· == ':') t) ++ go false more
    | _, p :: more => p :: go false more
  go true w

/-- The glyphs of a word. -/
def glyphs (self : Evaluator) (w : Word) : ShellM (List Glyph) := do
  let parts ← (withHome (← get) w).mapM (partGlyphs self)
  return parts.flatten

/-- The names of what lies directly in the directory that a path leads to. -/
def namesIn (s : Store) (path : Text) : List Text :=
  match s.locate (if path.isEmpty then ['.'] else path) with
  | .error _ => []
  | .ok here => (s.members here).map Prod.fst

/-- Does the path lead to anything? -/
def exists? (s : Store) (path : Text) : Bool :=
  (s.locate path).toOption.any fun here => (s.get? here).isSome

/-- Is there anything at the path itself? -/
def isNamed (s : Store) (path : Text) : Bool :=
  (s.locateName path).toOption.any fun here => (s.get? here).isSome

/-- The paths that fit the segments of a field, behind the given path. -/
def pathsFrom (s : Store) : Text → List Field → List Text
  | path, [] => [path]
  | path, segment :: rest =>
    let isLast := rest.isEmpty
    let continued (name : Text) : List Text :=
      if isLast = true then [path ++ name] else pathsFrom s (path ++ name ++ ['/']) rest
    if Pattern.isOpen segment = true then
      let startsWithDot := segment.head?.map Prod.fst == some '.'
      let names := namesIn s path ++ (if startsWithDot = true then [['.'], ['.', '.']] else [])
      (names.filter fun name =>
        (startsWithDot || name.head? != some '.') &&
          Pattern.fits (Pattern.ofMarks segment) name).flatMap continued
    else continued (segment.map Prod.fst)

/-- The segments of a field. -/
def segmentsOf : Field → List Field
  | [] => [[]]
  | (c, isQuoted) :: rest =>
    match segmentsOf rest with
    | [] => [[(c, isQuoted)]]
    | segment :: more =>
      if c = '/' then [] :: segment :: more else ((c, isQuoted) :: segment) :: more

/-- The paths that a field stands for, or its own text. -/
def pathsOf (s : Store) (field : Field) : List Text :=
  let own := field.map Prod.fst
  if Pattern.isOpen field = true then
    match (pathsFrom s [] (segmentsOf field)).filter (isNamed s) with
    | [] => [own]
    | paths => paths.mergeSort fun a b => precedes a b
  else [own]

/-- The texts that words stand for. -/
def fieldsOf (self : Evaluator) (ws : List Word) : ShellM (List Text) := do
  let fieldss ← ws.mapM fun w => do
    let fields := Glyph.fields (← separators) (← self.expand w)
    if ← hasOption 'f' then return fields.map fun f => f.map Prod.fst
    else return fields.flatMap (pathsOf (← get).world.store)
  return fieldss.flatten

end NodeClasses.Shell
