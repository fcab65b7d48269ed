import NodeClasses.Shell.Pattern

/-!
# Regular expressions

A regular expression fits parts of a text. A match is the longest one at the leftmost place where
there is any. In basic expressions a backslash gives some characters a meaning, and in extended ones
it takes their meaning away.
-/

namespace NodeClasses.Shell
set_option autoImplicit false

/-- A regular expression. -/
inductive Regex where
  | empty
  | char (c : Char)
  | any
  /-- A character in one of the ranges, or else one in none of them. -/
  | oneOf (ranges : List (Nat × Nat)) (isNegated : Bool)
  /-- The start of the text. -/
  | start
  /-- The end of the text. -/
  | finish
  | group (n : Nat) (r : Regex)
  | both (r s : Regex)
  | either (r s : Regex)
  /-- Repetitions, at least and at most so many. -/
  | many (least : Nat) (most : Option Nat) (r : Regex)
  deriving Repr

namespace Regex

/-- What a regular expression is made of: an expression for one character, or a character with a
meaning of its own. -/
inductive Token where
  | leaf (r : Regex)
  | mark (c : Char)

/-- Cuts a regular expression into tokens, at most the given number. -/
def tokens (isExtended : Bool) : Nat → Text → List Token
  | n + 1, '\\' :: c :: rest =>
    let token : Token := if c = 'n' then .leaf (.char '\n')
      else if isExtended = false ∧ "()|+?".toList.contains c then .mark c
      else .leaf (.char c)
    token :: tokens isExtended n rest
  | n + 1, '[' :: rest =>
    let isNegated := rest.head? == some '^'
    let inside := if isNegated = true then rest.tail else rest
    match Pattern.ranges? (inside.length + 1) true (inside.map fun c => (c, false)) with
    | some (ranges, after) =>
      .leaf (.oneOf ranges isNegated) :: tokens isExtended n (after.map Prod.fst)
    | none => .leaf (.char '[') :: tokens isExtended n rest
  | n + 1, c :: rest =>
    let token : Token := if c = '.' then .leaf .any
      else if ['*', '^', '$'].contains c then .mark c
      else if isExtended = true ∧ "()|+?".toList.contains c then .mark c
      else .leaf (.char c)
    token :: tokens isExtended n rest
  | _, _ => []

/-- How often an expression is repeated that stands before the character. -/
def repetition? (c : Char) : Option (Nat × Option Nat) :=
  ([('*', 0, none), ('+', 1, none), ('?', 0, some 1)] : List (Char × Nat × Option Nat)).lookup c

/-- Reads up to a closing parenthesis, at most the given number of steps, where so many groups have
begun and `front` holds the alternatives and `items` the parts that are read already, from last to
first. The results are the expression, the number of groups and what follows. -/
def readFrom :
    Nat → Nat → Option Regex → List Regex → List Token → Regex × Nat × List Token
  | n + 1, groups, front, items, t :: rest =>
    let goOn (r : Regex) : Regex × Nat × List Token := readFrom n groups front (r :: items) rest
    match t with
    | .leaf r => goOn r
    | .mark ')' => (whole front items, groups, rest)
    | .mark '|' => readFrom n groups (some (whole front items)) [] rest
    | .mark '(' =>
      let (r, more, after) := readFrom n (groups + 1) none [] rest
      readFrom n more front (.group (groups + 1) r :: items) after
    | .mark '^' => goOn (if items.isEmpty then .start else .char '^')
    | .mark '$' =>
      let isLast := match rest with
        | [] | .mark ')' :: _ | .mark '|' :: _ => true
        | _ => false
      goOn (if isLast = true then .finish else .char '$')
    | .mark c =>
      match repetition? c, items with
      | some (least, most), r :: more => readFrom n groups front (.many least most r :: more) rest
      | _, _ => goOn (.char c)
  | _, groups, front, items, ts => (whole front items, groups, ts)
where
  /-- The alternatives in front, or else the parts in their order. -/
  whole (front : Option Regex) (items : List Regex) : Regex :=
    let last := items.foldl (fun r s => .both s r) .empty
    (front.map fun r => .either r last).getD last

/-- The expression that a text spells. -/
def read (isExtended : Bool) (t : Text) : Regex :=
  (readFrom (t.length + 1) 0 none [] (tokens isExtended t.length t)).1

/-- A place in a text. -/
structure Place where
  /-- How many characters are before it. -/
  position : Nat
  rest : Text
  /-- What groups fitted. -/
  groups : List (Nat × Text)
  deriving DecidableEq, Repr

/-- The place behind the next character, if the character satisfies `p`. -/
def Place.next (p : Char → Bool) (here : Place) : List Place :=
  match here.rest with
  | c :: rest => if p c = true then [⟨here.position + 1, rest, here.groups⟩] else []
  | [] => []

/-- The places behind repetitions of a step, most repetitions first. So many are done already, and
at most the given number may follow. -/
def repetitions (step : Place → List Place) (least : Nat) (most : Option Nat) :
    Nat → Nat → Place → List Place
  | 0, _, here => [here]
  | n + 1, done, here =>
    let further := if (most.all fun m => decide (done < m)) = true then
        (step here).flatMap fun there =>
          if there.position = here.position then []
          else repetitions step least most n (done + 1) there
      else []
    if least ≤ done then further ++ [here] else further

/-- The places up to which the expression fits from a place on. -/
def ends : Regex → Place → List Place
  | .empty, here => [here]
  | .char c, here => here.next (· == c)
  | .any, here => here.next fun _ => true
  | .oneOf ranges isNegated, here => here.next fun c => Text.inRanges ranges c != isNegated
  | .start, here => if here.position = 0 then [here] else []
  | .finish, here => if here.rest.isEmpty then [here] else []
  | .group n r, here =>
    (ends r here).map fun there =>
      { there with
        groups := (n, here.rest.take (there.position - here.position)) :: there.groups }
  | .both r s, here => (ends r here).flatMap (ends s)
  | .either r s, here => ends r here ++ ends s here
  | .many least most r, here => repetitions (ends r) least most (here.rest.length + 1) 0 here

/-- The end of the longest match from a place on. -/
def longest? (r : Regex) (here : Place) : Option Place :=
  (ends r here).foldl (fun best there =>
    match best with
    | none => some there
    | some b => if b.position < there.position then some there else best) none

/-- The leftmost match in what is left of a text, behind so many characters: what is in front of
it, what it fits, and the place at its end. -/
def find? (r : Regex) : Nat → Text → Option (Text × Text × Place)
  | position, [] => (longest? r ⟨position, [], []⟩).map fun there => ([], [], there)
  | position, c :: rest =>
    match longest? r ⟨position, c :: rest, []⟩ with
    | some there => some ([], (c :: rest).take (there.position - position), there)
    | none => (find? r (position + 1) rest).map fun m => (c :: m.1, m.2)

end Regex

end NodeClasses.Shell
