import NodeClasses.Job
import NodeClasses.Tool

/-!
# Formatters

A formatter is a tool that lays out a header and a source file anew, in place. It is named by the
environment or found on the search path. `discover_of_named` and `discover_of_unnamed` say which
of the two counts.
-/

namespace NodeClasses
set_option autoImplicit false

/-- What the environment says about formatters. A variable may hold any bytes; here it holds a text,
so nothing is said of one whose bytes are not the encoding of a text. -/
structure Environment where
  /-- The formatter to use, if one is named. -/
  formatter : Option Text
  /-- The directories to search, with colons between them. -/
  searchPath : Option Text
  deriving DecidableEq, Repr

namespace Environment

/-- The variable that names a formatter. -/
def formatterVariable : Text := "CLANG_FORMAT"

/-- The variables that processes see. -/
def bindings (env : Environment) : List (Text × Text) :=
  (env.formatter.map fun t => (formatterVariable, t)).toList ++
    (env.searchPath.map fun t => (Tool.searchPathVariable, t)).toList

end Environment

/-- A formatter, by the path of its executable. -/
structure Formatter where
  path : Text
  deriving DecidableEq, Repr

namespace Formatter

/-- The file name under which a formatter is searched. -/
def fileName : Text := "clang-format"

/-- The formatter that the environment names, or else the first one on the search path. An empty
name names none. -/
def discover (env : Environment) (s : Store) : Option Formatter :=
  match env.formatter with
  | some (c :: rest) => some ⟨c :: rest⟩
  | _ => (env.searchPath.bind (Tool.find? s · fileName)).map Formatter.mk

/-- The arguments for a pair of files: change them in place. -/
def arguments (files : FilePair) : List Text := ["-i", files.header, files.source]

/-- The formatter as a tool that sees the environment. -/
def tool (env : Environment) (f : Formatter) : Tool := Tool.ofName env.bindings f.path

/-- Runs a tool over pairs of files, one after the other. How a run ends makes no difference. -/
def formatAll {σ : Type} (tool : Tool.On σ) : List FilePair → σ → σ × Streams
  | [], s => (s, .silent)
  | files :: rest, s =>
    let first := tool (arguments files) s
    let (t, printed) := formatAll tool rest first.store
    (t, first.printed ++ printed)

/-- A formatter that is named is used without a search. -/
theorem discover_of_named {env : Environment} {path : Text} (s : Store)
    (h : env.formatter = some path) (ne : path ≠ []) : discover env s = some ⟨path⟩ := by
  obtain ⟨c, rest, rfl⟩ := List.exists_cons_of_ne_nil ne
  simp only [discover, h]

theorem discover_of_unnamed {env : Environment} (s : Store)
    (h : ∀ path ∈ env.formatter, path = []) :
    discover env s = (env.searchPath.bind (Tool.find? s · fileName)).map Formatter.mk := by
  cases hf : env.formatter with
  | none => simp only [discover, hf]
  | some path => simp only [discover, hf, h path hf]

end Formatter

end NodeClasses
