import NodeClasses.Text.Blank

/-!
# What a member holds

The kind of a member follows from its type text and from the pointer and reference marks on its
name. It decides whether a constructor moves its parameter into the member. A member with a mark
on its name owns nothing: `isMoved_ofType_marked`.
-/

namespace NodeClasses.Field
set_option autoImplicit false

open Text

/-- What a member holds, as far as its constructor cares. -/
inductive Kind where
  /-- A lexical token or a pointer to one. -/
  | token
  /-- A vector of tokens. -/
  | tokens
  /-- An owning pointer to the given node type. -/
  | child (node : Text)
  /-- A vector of owning pointers to the given node type. -/
  | children (node : Text)
  /-- A value of any type. -/
  | anyValue
  /-- Anything else, copied as it is. -/
  | plain
  deriving DecidableEq, Repr

/-- Does a constructor move its parameter into a member of this kind? -/
def Kind.isMoved : Kind → Bool
  | .token => false
  | .tokens => true
  | .child _ => true
  | .children _ => true
  | .anyValue => true
  | .plain => false

/-- Does the type name a token once the pointer marks at its end are dropped? -/
def isTokenType (type : Text) : Bool :=
  let named := dropEndWhile (fun c => c == '*' || isBlank c) type
  named == "Token" || List.isSuffixOf "::Token" named

/-- The text between the angle brackets of a type that starts with the given template. -/
def templateArgument? (template type : Text) : Option Text := do
  let rest ← template.isPrefixOf? type
  let opened ← List.isPrefixOf? "<" (trimStart rest)
  let argument ← List.isSuffixOf? ">" opened
  return trim argument

/-- The node type that an owning pointer type points to. -/
def ownedNode? (type : Text) : Option Text :=
  templateArgument? "std::unique_ptr" type <|> templateArgument? "std::shared_ptr" type

/-- The kind of a member of a vector type with the given element type. -/
def Kind.ofElement (element : Text) : Kind :=
  if isTokenType element then .tokens
  else
    match ownedNode? element with
    | some node => .children node
    | none => .plain

/-- The kind of a member from its type and the marks on its name. A marked name is a pointer or a
reference, so its type can only tell a token from anything else. -/
def Kind.ofType (type marks : Text) : Kind :=
  if isTokenType type then .token
  else if marks ≠ [] then .plain
  else
    match templateArgument? "std::vector" type with
    | some element => Kind.ofElement element
    | none =>
      match ownedNode? type with
      | some node => .child node
      | none => if type = "std::any" then .anyValue else .plain

/-- A pointer or reference member is copied, whatever its type. -/
theorem isMoved_ofType_marked (type : Text) {marks : Text} (h : marks ≠ []) :
    (Kind.ofType type marks).isMoved = false := by
  unfold Kind.ofType
  split
  · rfl
  · rfl

end NodeClasses.Field
