import NodeClasses.Shell.Arithmetic
import NodeClasses.Shell.Regex
import NodeClasses.Shell.Utility.Basic
import NodeClasses.Store.Listing

/-!
# Utilities for texts

They read texts line by line or character by character and print what becomes of them.
-/

namespace NodeClasses.Shell
set_option autoImplicit false

open Text

/-- Prints texts one after the other. -/
def concatenate : Utility := fun _ name arguments =>
  withOptions "u" name arguments 1 fun o =>
    eachInput name o.operands 1 pathFault fun _ t => do
      say t
      return 0

/-- Prints its input and writes it to files. -/
def tee : Utility := fun _ name arguments =>
  withOptions "aip" name arguments 1 fun o => do
    let mode : Mode := if o.has 'a' = true then .extend else .overwrite
    match ← inputText "-" with
    | .error fault => refuseWith 1 name ("read error: " ++ fault.reason)
    | .ok t => do
      say t
      greatestStatus (fun path => do
        match ← outputText mode path t with
        | .ok () => return 0
        | .error fault => refuseWith 1 name (pathFault path fault)) o.operands

/-- The number that a text spells, with the sign in front of it. -/
def signedNumber? (t : Text) : Option (Option Char × Nat) :=
  let (sign, digits) : Option Char × Text := match t with
    | '-' :: rest => (some '-', rest)
    | '+' :: rest => (some '+', rest)
    | _ => (none, t)
  match digits, Arithmetic.digits 10 0 digits with
  | _ :: _, (n, []) => some (sign, n)
  | _, _ => none

/-- An old form of an option, a dash and a number, as the option for lines. -/
def withLineOption : List Text → List Text
  | ('-' :: d :: digits) :: rest =>
    if d.isDigit && digits.all Char.isDigit then "-n" :: (d :: digits) :: rest
    else ('-' :: d :: digits) :: rest
  | arguments => arguments

/-- Prints a part of each text, with a heading if there are several. Characters or lines are taken
by a number and its sign: `part` says which of a list. -/
def printParts (part : (α : Type) → Option Char → Nat → List α → List α) : Utility :=
  fun _ name arguments => withOptions "c:n:qv" name (withLineOption arguments) 1 fun o => do
    let (letter, amount) := ((o.given.filter fun g => g.1 == 'c' || g.1 == 'n').getLast?).getD
      ('n', "10")
    let kind : Text := if letter = 'n' then "lines" else "bytes"
    match signedNumber? amount with
    | none => refuseWith 1 name ("invalid number of " ++ kind ++ ": " ++ shownName amount)
    | some (sign, n) => do
      let hasHeadings := o.has 'v' || (o.operands.length > 1 && !o.has 'q')
      let first := o.operands.headD []
      let complaint (path : Text) (fault : Fault) : Text :=
        if fault = .isDirectory then "error reading " ++ shownName path ++ ": " ++ fault.reason
        else "cannot open " ++ shownName path ++ " for reading: " ++ fault.reason
      eachInput name o.operands 1 complaint fun path t => do
        if hasHeadings = true then
          let gap : Text := if path = first then [] else ['\n']
          let shown : Text := if path = "-" then "standard input" else path
          say (gap ++ "==> " ++ shown ++ " <==\n")
        say (if letter = 'c' then part Char sign n t else (part Text sign n (endedLines t)).flatten)
        return 0

/-- Prints the starts of texts. A dash in front of the number leaves so much out at the end. -/
def head : Utility :=
  printParts fun _ sign n xs => if sign = some '-' then xs.take (xs.length - n) else xs.take n

/-- Prints the ends of texts. A plus in front of the number says where the end starts. -/
def tail : Utility :=
  printParts fun _ sign n xs => if sign = some '+' then xs.drop (n - 1) else xs.drop (xs.length - n)

/-- The words of a text. -/
def wordsOf (t : Text) : List Text :=
  (pieces (fun c => [' ', '\t', '\n', '\r', '\x0b', '\x0c'].contains c) t).filter (!·.isEmpty)

/-- Counts lines, words and bytes of texts. A single number stands by itself, and else the columns
are as wide as the number of all bytes. -/
def count : Utility := fun _ name arguments =>
  withOptions "clmw" name arguments 1 fun o => do
    let isDefault := o.given.isEmpty
    let measures : List (Bool × (Text → Nat)) :=
      [(isDefault || o.has 'l', fun t => t.count '\n'),
        (isDefault || o.has 'w', fun t => (wordsOf t).length),
        (isDefault || o.has 'c' || o.has 'm', List.length)]
    let counts (t : Text) : List Nat :=
      measures.filterMap fun m => if m.1 = true then some (m.2 t) else none
    let sizes ← o.operands.mapM fun path => do
      return (((← store).readFile path).toOption.map fun p => p.1.length).getD 0
    let usual := if o.operands.isEmpty then 7 else (ofNat (sizes.foldl (· + ·) 0)).length
    let width := if o.operands.length ≤ 1 ∧ (counts []).length = 1 then 1 else usual
    let row (ns : List Nat) (label : Text) : Text :=
      let column (n : Nat) : Text := List.replicate (width - (ofNat n).length) ' ' ++ ofNat n
      let shown := List.intercalate [' '] (ns.map column)
      (if label.isEmpty then shown else shown ++ ' ' :: label) ++ ['\n']
    let mut sums := counts []
    let mut status := 0
    for path in if o.operands.isEmpty then [['-']] else o.operands do
      match ← inputText path with
      | .error fault => status ← refuseWith 1 name (pathFault path fault)
      | .ok t => do
        say (row (counts t) (if o.operands.isEmpty then [] else path))
        sums := sums.zipWith (· + ·) (counts t)
    if o.operands.length > 1 then say (row sums "total")
    return status

/-- Reads a range of places, from one: a number, or two of them around a dash, of which one may be
missing. The last place is left out where there is no end. -/
def placeRange? (t : Text) : Option (Nat × Option Nat) :=
  let number? (t : Text) : Option Nat := match signedNumber? t with
    | some (none, n) => if n = 0 then none else some n
    | _ => none
  match pieces (· == '-') t with
  | [n] => (number? n).map fun n => (n, some n)
  | [[], n] => (number? n).map fun n => (1, some n)
  | [m, []] => (number? m).map fun m => (m, none)
  | [m, n] => do
    let low ← number? m
    let high ← number? n
    if low ≤ high then some (low, some high) else none
  | _ => none

/-- The members of a list whose places are in one of the ranges. -/
def selected {α : Type} (ranges : List (Nat × Option Nat)) (xs : List α) : List α :=
  let isIn (place : Nat) (r : Nat × Option Nat) : Bool :=
    decide (r.1 ≤ place) && r.2.all fun last => decide (place ≤ last)
  xs.zipIdx.filterMap fun (x, i) => if ranges.any (isIn (i + 1)) = true then some x else none

/-- Cuts characters or fields out of lines. -/
def cut : Utility := fun _ name arguments =>
  withOptions "b:c:d:f:ns" name arguments 1 fun o => do
    match o.given.filter fun g => ['f', 'c', 'b'].contains g.1 with
    | [] => misuse name "you must specify a list of bytes, characters, or fields" 1
    | (letter, list) :: _ =>
      match (pieces (· == ',') list).mapM placeRange? with
      | none =>
        let kind : Text := if letter = 'f' then "field value " else "byte/character position "
        misuse name ("invalid " ++ kind ++ shownName list) 1
      | some ranges => do
        let mark := ((o.value? 'd').bind List.head?).getD '\t'
        let part (l : Text) : Option Text :=
          if letter ≠ 'f' then some (selected ranges l)
          else if l.contains mark then
            some (List.intercalate [mark] (selected ranges (pieces (· == mark) l)))
          else if o.has 's' = true then none else some l
        eachInput name o.operands 1 pathFault fun _ t => do
          say (ofLines ((linesOf t).filterMap part))
          return 0

/-- Prints the lines that a regular expression fits, or those that it does not fit. -/
def search : Utility := fun _ name arguments =>
  withOptions "cEiqv" name arguments 2 fun o => do
    let ofCase (t : Text) : Text := if o.has 'i' = true then t.map Char.toLower else t
    match o.operands with
    | [] => misuse name "missing pattern" 2
    | pattern :: paths => do
      let r := Regex.read (o.has 'E') (ofCase pattern)
      let label (path : Text) : Text := if paths.length > 1 then path ++ [':'] else []
      let mut isFound := false
      for path in if paths.isEmpty then [['-']] else paths do
        match ← inputText path with
        | .error fault => let _ ← refuseWith 2 name (path ++ ": " ++ fault.reason)
        | .ok t =>
          let fitting := (linesOf t).filter fun l => (r.find? 0 (ofCase l)).isSome != o.has 'v'
          let shown := if o.has 'c' = true then [ofNat fitting.length] else fitting
          unless o.has 'q' do say (ofLines (shown.map fun l => label path ++ l))
          isFound := isFound || !fitting.isEmpty
      return if isFound = true then 0 else 1

/-- The characters that a set names: ranges have a dash between their ends. -/
def charactersOf : Text → Text
  | c :: '-' :: d :: rest =>
    (List.range (d.toNat + 1 - c.toNat)).map (fun n => Char.ofNat (c.toNat + n)) ++
      charactersOf rest
  | '\\' :: c :: rest =>
    (if c = 'n' then '\n' else if c = 't' then '\t' else c) :: charactersOf rest
  | c :: rest => c :: charactersOf rest
  | [] => []

/-- Puts the characters of one set in the place of those of another, or leaves some out. -/
def translate : Utility := fun _ name arguments =>
  withOptions "ds" name arguments 1 fun o => do
    match o.operands, ← inputText "-" with
    | [source], .ok t => do
      say (if o.has 'd' = true then t.filter fun c => !(charactersOf source).contains c else t)
      return 0
    | [source, goal], .ok t => do
      let goals := charactersOf goal
      let change (c : Char) : Char :=
        match (charactersOf source).findIdx? (· == c) with
        | none => c
        | some i => goals.getD i (goals.getLastD c)
      say (t.map change)
      return 0
    | _, _ => misuse name "missing operand" 1

/-- A line as the options for sorting look at it: blanks in front, characters of some kinds and the
case of letters may not count. -/
def sortKey (o : Settings) (l : Text) : Text :=
  let isBlank (c : Char) : Bool := c == ' ' || c == '\t'
  let bare := if o.has 'b' = true then l.dropWhile isBlank else l
  let kept := bare.filter fun c =>
    (!o.has 'd' || c.isAlphanum || isBlank c) && (!o.has 'i' || (' ' ≤ c && c ≤ '~'))
  if o.has 'f' = true then kept.map Char.toUpper else kept

/-- Does the first line come before the second one, or may it? Lines that the options do not tell
apart are compared as they are, unless they are to stay as they come. -/
def comesFirst (o : Settings) (a b : Text) : Bool :=
  let number (l : Text) : Int := (Arithmetic.integer? (l.takeWhile fun c => c != '.')).getD 0
  let before (a b : Text) : Bool :=
    if o.has 'n' = true then decide (number a < number b)
    else !precedes (sortKey o b) (sortKey o a)
  let (a, b) := if o.has 'r' = true then (b, a) else (a, b)
  before a b || (!before b a && (o.has 's' || o.has 'u' || precedes a b))

/-- Sorts the lines of texts. -/
def sort : Utility := fun _ name arguments =>
  withOptions "bdfinrsuo:" name arguments 2 fun o => do
    let texts ← (if o.operands.isEmpty then [['-']] else o.operands).mapM inputText
    match (o.operands.zip texts).find? fun p => p.2 matches .error _ with
    | some (path, .error fault) =>
      refuseWith 2 name ("cannot read: " ++ pathFault path fault)
    | _ => do
      let lines := texts.flatMap fun t => linesOf (t.toOption.getD [])
      let sorted := lines.mergeSort (comesFirst o)
      let isAgain (a b : Text) : Bool := comesFirst o a b && comesFirst o b a
      let shown := ofLines (if o.has 'u' = true then
        (sorted.splitBy isAgain).filterMap List.head? else sorted)
      match o.value? 'o' with
      | none => do
        say shown
        return 0
      | some path =>
        match ← outputText .overwrite path shown with
        | .ok () => return 0
        | .error fault => refuseWith 2 name ("open failed: " ++ pathFault path fault)

end NodeClasses.Shell
