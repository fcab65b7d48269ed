import Mathlib.Logic.ExistsUnique
import NodeClasses.Formatter
import NodeClasses.Proofs.Store.Programs
import NodeClasses.Proofs.Text.Delimited

/-!
# Finding a formatter

A formatter that the environment names is used as it is. Otherwise the directories of the search
path are tried in order, and the first one that has a program of the right name tells the formatter:
`discover_findsFirst`. Whatever else stands under that name is passed over, and directories behind
the one that decides have no say.
-/

namespace NodeClasses
set_option autoImplicit false

open Text

namespace Environment

/-- The directories to search are these, in order: the texts between the colons of the search path,
empty ones included. Without a search path there are none. -/
structure Lists (env : Environment) (dirs : List Text) : Prop where
  whole : ∀ dir ∈ dirs, ':' ∉ dir
  joined : env.searchPath = if dirs = [] then none else some (List.intercalate [':'] dirs)

/-- The directories to search. -/
def directories (env : Environment) : List Text :=
  match env.searchPath with
  | none => []
  | some path => pieces (· == ':') path

theorem lists_iff {env : Environment} {dirs : List Text} :
    env.Lists dirs ↔ env.directories = dirs := by
  -- Any search path has a directory, so no directories at all tell that there is none.
  unfold directories
  cases given : env.searchPath with
  | none =>
    constructor
    · rintro ⟨-, joined⟩
      rw [given] at joined
      by_cases empty : dirs = []
      · exact empty.symm
      · simp [empty] at joined
    · rintro rfl
      exact ⟨by simp, given⟩
  | some path =>
    rw [pieces_eq_iff]
    constructor
    · rintro ⟨whole, joined⟩
      rw [given] at joined
      by_cases empty : dirs = []
      · simp [empty] at joined
      · rw [if_neg empty, Option.some.injEq] at joined
        exact ⟨empty, whole, joined.symm⟩
    · rintro ⟨nonempty, whole, rfl⟩
      exact ⟨whole, by rw [given, if_neg nonempty]⟩

theorem existsUnique_lists (env : Environment) : ∃! dirs, env.Lists dirs := by
  refine ⟨env.directories, lists_iff.2 rfl, ?_⟩
  intro dirs lists
  exact (lists_iff.1 lists).symm

/-- No formatter is named. An empty name names none. -/
def NamesNone (env : Environment) : Prop := ∀ path ∈ env.formatter, path = []

theorem named_or_namesNone (env : Environment) :
    (∃ path, env.formatter = some path ∧ path ≠ []) ∨ env.NamesNone := by
  unfold NamesNone
  cases env.formatter with
  | none => simp
  | some path =>
    by_cases empty : path = []
    · simp [empty]
    · exact .inl ⟨path, rfl, empty⟩

end Environment

namespace Formatter

/-- The formatter that is looked for in a directory. -/
def inDirectory (dir : Text) : Formatter := ⟨Path.join dir fileName⟩

/-- The directory has a formatter. -/
def IsIn (s : Store) (dir : Text) : Prop := s.HoldsProgram (encode (inDirectory dir).path)

/-- The formatter is that of the first directory which has one. -/
def FirstIn (s : Store) (dirs : List Text) (f : Formatter) : Prop :=
  ∃ (i : Nat) (bound : i < dirs.length), f = inDirectory dirs[i] ∧ IsIn s dirs[i] ∧
    ∀ (j : Nat) (earlier : j < i), ¬ IsIn s dirs[j]

/-- Is there a formatter in the directory? -/
def isThere (s : Store) (dir : Text) : Bool := s.isExecutable (encode (inDirectory dir).path)

theorem isThere_iff {s : Store} {dir : Text} : isThere s dir = true ↔ IsIn s dir :=
  Store.isExecutable_iff

section

variable {s : Store} {dirs : List Text}

theorem find?_isThere_eq_none_iff :
    dirs.find? (isThere s) = none ↔ ∀ dir ∈ dirs, ¬ IsIn s dir := by
  rw [List.find?_eq_none]
  exact forall₂_congr fun dir _ => not_congr isThere_iff

theorem find?_isThere_eq_some_iff {f : Formatter} :
    (dirs.find? (isThere s)).map inDirectory = some f ↔ FirstIn s dirs f := by
  have absent (dir : Text) : (!isThere s dir) = true ↔ ¬ IsIn s dir := by
    rw [← isThere_iff, Bool.not_eq_true']
    simp
  rw [Option.map_eq_some_iff]
  constructor
  · rintro ⟨dir, first, rfl⟩
    obtain ⟨there, i, bound, rfl, earlier⟩ := List.find?_eq_some_iff_getElem.1 first
    refine ⟨i, bound, rfl, isThere_iff.1 there, ?_⟩
    intro j before
    exact (absent dirs[j]).1 (earlier j before)
  · rintro ⟨i, bound, rfl, there, earlier⟩
    refine ⟨dirs[i], List.find?_eq_some_iff_getElem.2 ?_, rfl⟩
    refine ⟨isThere_iff.2 there, i, bound, rfl, ?_⟩
    intro j before
    exact (absent dirs[j]).2 (earlier j before)

/-- A directory without a formatter may be left out. -/
theorem find?_isThere_remove {dir : Text} (absent : ¬ IsIn s dir) (before after : List Text) :
    (before ++ dir :: after).find? (isThere s) = (before ++ after).find? (isThere s) := by
  have passed : ¬ isThere s dir = true := fun there => absent (isThere_iff.1 there)
  rw [List.find?_append, List.find?_append, List.find?_cons_of_neg passed]

/-- Directories behind the first one that has a formatter have no say. -/
theorem find?_isThere_append {dir : Text} (first : dirs.find? (isThere s) = some dir)
    (more : List Text) : (dirs ++ more).find? (isThere s) = some dir := by
  rw [List.find?_append, first, Option.some_or]

variable {env : Environment}

/-- Without a name the directories are searched. -/
theorem discover_of_lists (unnamed : env.NamesNone) (lists : env.Lists dirs) (s : Store) :
    discover env s = (dirs.find? (isThere s)).map inDirectory := by
  obtain rfl := Environment.lists_iff.1 lists
  rw [discover_of_unnamed s unnamed]
  unfold Environment.directories
  cases env.searchPath with
  | none => rfl
  | some path =>
    rw [Option.bind_some, Tool.find?, Tool.candidates, List.find?_map, Option.map_map]
    rfl

end

/-- How a formatter is found, where these are the directories to search. -/
structure Found (env : Environment) (s : Store) (dirs : List Text) : Prop where
  named : ∀ path, env.formatter = some path → path ≠ [] → discover env s = some ⟨path⟩
  first : env.NamesNone → ∀ f, discover env s = some f ↔ FirstIn s dirs f
  nothing : env.NamesNone → (discover env s = none ↔ ∀ dir ∈ dirs, ¬ IsIn s dir)
  /-- What stands in place of a formatter without being a program makes no difference. -/
  passedOver : ∀ before dir after, dirs = before ++ dir :: after →
    s.HoldsNoProgram (encode (inDirectory dir).path) →
    ∀ other : Environment, other.formatter = env.formatter → other.Lists (before ++ after) →
      discover other s = discover env s
  /-- A longer search path leads to the same formatter. -/
  kept : ∀ f, discover env s = some f →
    ∀ (more : List Text) (other : Environment), other.formatter = env.formatter →
      other.Lists (dirs ++ more) → discover other s = some f

/-- **The first formatter is found.** Every search path has its directories. A formatter that is
named is used, and otherwise that of the first directory that has one. -/
theorem discover_findsFirst (env : Environment) (s : Store) :
    (∃! dirs, env.Lists dirs) ∧ ∀ dirs, env.Lists dirs → Found env s dirs := by
  refine ⟨env.existsUnique_lists, fun dirs lists => ?_⟩
  constructor
  case named =>
    intro path given nonempty
    exact discover_of_named s given nonempty
  case first =>
    intro unnamed f
    rw [discover_of_lists unnamed lists, find?_isThere_eq_some_iff]
  case nothing =>
    intro unnamed
    rw [discover_of_lists unnamed lists, Option.map_eq_none_iff, find?_isThere_eq_none_iff]
  -- A named formatter counts whatever is searched, so the last two cases are about the search only.
  case passedOver =>
    rintro before dir after rfl noProgram other same others
    rcases env.named_or_namesNone with ⟨path, given, nonempty⟩ | unnamed
    · rw [discover_of_named s given nonempty, discover_of_named s (same.trans given) nonempty]
    · have unnamed' : other.NamesNone := by rwa [Environment.NamesNone, same]
      rw [discover_of_lists unnamed lists, discover_of_lists unnamed' others,
        find?_isThere_remove noProgram.not_holdsProgram]
  case kept =>
    intro f found more other same others
    rcases env.named_or_namesNone with ⟨path, given, nonempty⟩ | unnamed
    · rw [discover_of_named s given nonempty] at found
      rw [discover_of_named s (same.trans given) nonempty, found]
    · have unnamed' : other.NamesNone := by rwa [Environment.NamesNone, same]
      rw [discover_of_lists unnamed lists, Option.map_eq_some_iff] at found
      obtain ⟨dir, first, rfl⟩ := found
      rw [discover_of_lists unnamed' others, find?_isThere_append first more]
      rfl

/-- A store in which a directory, a file that nobody may execute and two programs have the name of a
formatter. -/
def toolshed : Store := (Store.empty []).putAll
  [(["shelf"], .directory), (["shelf", fileName], .directory),
    (["box"], .directory), (["box", fileName], .file "" 0o644),
    (["rack"], .directory), (["rack", fileName], .file "" 0o710),
    (["wall"], .directory), (["wall", fileName], .file "" 0o755)]

/-- An empty directory name, a missing formatter and those that are none do not end the search. -/
theorem discover_findsFirst_toolshed :
    discover ⟨some "", some ":/none:/shelf:/box:/rack"⟩ toolshed = some ⟨"/rack/clang-format"⟩ ∧
      discover ⟨some "", some ":/none:/shelf:/box:/rack:/wall/"⟩ toolshed =
        some ⟨"/rack/clang-format"⟩ ∧
      discover ⟨some "", some ":/none:/shelf:/box"⟩ toolshed = none := by
  have unnamed (path : Text) : Environment.NamesNone ⟨some "", some path⟩ := by
    simp [Environment.NamesNone]
  have lists : Environment.Lists ⟨some "", some ":/none:/shelf:/box:/rack"⟩
      ["", "/none", "/shelf", "/box", "/rack"] := Environment.lists_iff.2 (by decide +kernel)
  have longer : Environment.Lists ⟨some "", some ":/none:/shelf:/box:/rack:/wall/"⟩
      ((["", "/none", "/shelf", "/box", "/rack"] : List Text) ++ (["/wall/"] : List Text)) :=
    Environment.lists_iff.2 (by decide +kernel)
  have shorter : Environment.Lists ⟨some "", some ":/none:/shelf:/box"⟩
      ["", "/none", "/shelf", "/box"] := Environment.lists_iff.2 (by decide +kernel)
  have rack : FirstIn toolshed ["", "/none", "/shelf", "/box", "/rack"]
      ⟨"/rack/clang-format"⟩ := find?_isThere_eq_some_iff.1 (by decide +kernel)
  have absent : ∀ dir ∈ (["", "/none", "/shelf", "/box"] : List Text), ¬ IsIn toolshed dir :=
    find?_isThere_eq_none_iff.1 (by decide +kernel)
  have along := (discover_findsFirst _ toolshed).2 _ lists
  have found := (along.first (unnamed _) _).2 rack
  have without := (discover_findsFirst _ toolshed).2 _ shorter
  exact ⟨found, along.kept _ found ["/wall/"] _ rfl longer, (without.nothing (unnamed _)).2 absent⟩

end Formatter

end NodeClasses
