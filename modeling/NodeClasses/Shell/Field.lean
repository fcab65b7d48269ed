import NodeClasses.Shell.Pattern

/-!
# Fields

What a word stands for is a list of glyphs, which `Glyph.fields` splits into fields: at each
boundary, and at the separators among the characters that came out of a parameter or a command
without quotes. Blank separators next to each other count once, and others each end a field.
-/

namespace NodeClasses.Shell
set_option autoImplicit false

/-- A piece of what a word stands for. -/
inductive Glyph where
  /-- A character that may be quoted, and that may end a field if it is a separator. -/
  | char (c : Char) (isQuoted mayEnd : Bool)
  /-- Quotes, between which there may be nothing. -/
  | quotes
  /-- The end of a field. -/
  | boundary
  deriving DecidableEq, Repr

/-- A field, with what is quoted in it. -/
abbrev Field := List Mark

namespace Glyph

/-- The glyphs of a text in which nothing ends a field. -/
def ofText (t : Text) (isQuoted : Bool) : List Glyph :=
  let chars := t.map fun c => .char c isQuoted false
  if isQuoted = true then .quotes :: chars else chars

/-- The glyphs of a value. -/
def ofValue (t : Text) (isQuoted : Bool) : List Glyph :=
  if isQuoted = true then ofText t true else t.map fun c => .char c false true

/-- The characters of glyphs, with a separator at each boundary. -/
def marks (separator : Option Char) : List Glyph → List Mark
  | [] => []
  | .char c isQuoted _ :: rest => (c, isQuoted) :: marks separator rest
  | .quotes :: rest => marks separator rest
  | .boundary :: rest => (separator.map fun c => (c, true)).toList ++ marks separator rest

/-- The text of glyphs, with a separator at each boundary. -/
def text (separator : Option Char) (gs : List Glyph) : Text := (marks separator gs).map Prod.fst

/-- Is the character a blank among the separators? -/
def isBlankSeparator (separators : Text) (c : Char) : Bool :=
  separators.contains c && (c == ' ' || c == '\t' || c == '\n')

/-- Splits glyphs, where a field may be open already and blanks may have ended the one before. -/
def fieldsFrom (separators : Text) : Option Field → Bool → List Glyph → List Field
  | isOpen, _, [] => isOpen.toList
  | isOpen, _, .quotes :: rest => fieldsFrom separators (some (isOpen.getD [])) false rest
  | isOpen, _, .boundary :: rest => isOpen.toList ++ fieldsFrom separators none false rest
  | isOpen, afterBlank, .char c isQuoted mayEnd :: rest =>
    if mayEnd && separators.contains c then
      if isBlankSeparator separators c = true then
        isOpen.toList ++ fieldsFrom separators none (afterBlank || isOpen.isSome) rest
      else if isOpen.isNone && afterBlank then fieldsFrom separators none false rest
      else isOpen.getD [] :: fieldsFrom separators none false rest
    else fieldsFrom separators (some (isOpen.getD [] ++ [(c, isQuoted)])) false rest

/-- The fields of glyphs. -/
def fields (separators : Text) (gs : List Glyph) : List Field := fieldsFrom separators none false gs

end Glyph

end NodeClasses.Shell
