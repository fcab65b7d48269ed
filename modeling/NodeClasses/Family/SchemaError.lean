import NodeClasses.Text.Basic

/-!
# Schema errors

What can be wrong with the names of a family, or of several families that share one unit, and how
each fault is told.
-/

namespace NodeClasses
set_option autoImplicit false

open Text

/-- What is wrong with the description of a family. -/
inductive SchemaError where
  /-- The family has no variants. -/
  | emptyFamily (base : Text)
  /-- A type name is no identifier. -/
  | invalidIdentifier (base name : Text)
  /-- A name is a keyword or one that the generated code needs. -/
  | reservedWord (base name : Text)
  /-- Two variants have the same name. -/
  | duplicateVariant (base variant : Text)
  /-- Two fields of a variant have the same name. -/
  | duplicateField (variant field : Text)
  /-- A variant is named like its family. -/
  | variantNamesBase (variant : Text)
  /-- Two families of one unit declare the same type. -/
  | clashAcrossFamilies (name first second : Text)
  deriving DecidableEq, Repr

/-- The wording of a schema error. -/
def SchemaError.message : SchemaError → Text
  | .emptyFamily base => "family " ++ quoted base ++ " has no variants"
  | .invalidIdentifier base name =>
    quoted name ++ " in family " ++ quoted base ++ " is not a valid identifier"
  | .reservedWord base name =>
    quoted name ++ " cannot be used as a name in family " ++ quoted base
  | .duplicateVariant base variant =>
    "variant " ++ quoted variant ++ " appears more than once in family " ++ quoted base
  | .duplicateField variant field =>
    "field " ++ quoted field ++ " appears more than once in variant " ++ quoted variant
  | .variantNamesBase variant => "variant " ++ quoted variant ++ " has the same name as its family"
  | .clashAcrossFamilies name first second =>
    "type " ++ quoted name ++ " is declared by both " ++ quoted first ++ " and " ++ quoted second

end NodeClasses
