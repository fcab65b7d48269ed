import Mathlib.Data.List.DropRight
import NodeClasses.Proofs.Text.Delimited
import NodeClasses.Store.Path

/-!
# The last segment of a path

The last segment of a path is the text behind its last slash, and the folder what stands before
that. A directory in front of a path leaves its last segment alone, and an ending behind it its
folder: `lastSegment_join`, `folder_append`. The file name of a path leaves out segments that lead
nowhere, so it may be a segment further up; `fileName_eq_lastSegment_iff` says when it is not.
-/

namespace NodeClasses.Path
set_option autoImplicit false

open Text

/-- The text behind the last slash. -/
def lastSegment (path : Text) : Text := path.rtakeWhile (· != '/')

/-- The text up to the last slash, which ends it. -/
def folder (path : Text) : Text := path.rdropWhile (· != '/')

section

variable {ending : Text}

theorem ne_slash_of_notMem (flat : '/' ∉ ending) : ∀ c ∈ ending.reverse, (c != '/') = true := by
  intro c member
  rw [bne_iff_ne]
  rintro rfl
  exact flat (List.mem_reverse.1 member)

/-- A text without slashes goes on with the last segment. -/
theorem lastSegment_append (flat : '/' ∉ ending) (path : Text) :
    lastSegment (path ++ ending) = lastSegment path ++ ending := by
  simp [lastSegment, List.rtakeWhile, List.takeWhile_append_of_pos (ne_slash_of_notMem flat)]

theorem folder_append (flat : '/' ∉ ending) (path : Text) :
    folder (path ++ ending) = folder path := by
  simp [folder, List.rdropWhile, List.dropWhile_append_of_pos (ne_slash_of_notMem flat)]

theorem join_append (flat : '/' ∉ ending) (dir path : Text) :
    join dir (path ++ ending) = join dir path ++ ending := by
  have absolute : isAbsolute (path ++ ending) = isAbsolute path := by
    cases path with
    | nil =>
      cases ending with
      | nil => rfl
      | cons c rest => simpa [isAbsolute] using Ne.symm (List.ne_of_not_mem_cons flat)
    | cons c rest => rfl
  simp only [join, absolute, apply_ite (· ++ ending), List.append_assoc]

end

theorem lastSegment_split {last : Text} (flat : '/' ∉ last) (up : Text) :
    lastSegment (up ++ '/' :: last) = last := by
  have slash : lastSegment (up ++ ['/']) = [] := List.rtakeWhile_concat_neg _ _ _ (by simp)
  rw [List.append_cons, lastSegment_append flat, slash, List.nil_append]

theorem flat_lastSegment (path : Text) : '/' ∉ lastSegment path := by
  intro member
  simpa using List.mem_rtakeWhile_imp member

/-- A path is its last segment, or has it behind a slash. -/
theorem lastSegment_cases (path : Text) :
    path = lastSegment path ∨ ∃ up, path = up ++ '/' :: lastSegment path := by
  have parts : folder path ++ lastSegment path = path := List.rdropWhile_append_rtakeWhile
  by_cases nonempty : folder path = []
  · rw [nonempty] at parts
    exact .inl parts.symm
  · have stops : ¬ ((folder path).getLast nonempty != '/') = true :=
      List.rdropWhile_last_not _ _ nonempty
    have slash : (folder path).getLast nonempty = '/' := by simpa using stops
    have split := List.dropLast_concat_getLast nonempty
    rw [slash] at split
    rw [← split] at parts
    exact .inr ⟨(folder path).dropLast, by simpa using parts.symm⟩

/-- What stands before a slash has no say in the last segment. -/
theorem lastSegment_behind (up path : Text) :
    lastSegment (up ++ '/' :: path) = lastSegment path := by
  have flat := flat_lastSegment path
  obtain same | ⟨above, same⟩ := lastSegment_cases path
  · exact (lastSegment_split (same ▸ flat) up).trans same
  · have split : up ++ '/' :: path = (up ++ '/' :: above) ++ '/' :: lastSegment path := by
      rw [List.append_assoc, List.cons_append, ← same]
    rw [split, lastSegment_split flat]

theorem lastSegment_join (dir path : Text) : lastSegment (join dir path) = lastSegment path := by
  unfold join
  split
  · rfl
  · split
    · next slash =>
      obtain ⟨up, rfl⟩ := List.getLast?_eq_some_iff.1 slash
      rw [← List.append_cons, lastSegment_behind]
    · simpa using lastSegment_behind dir path

theorem getLast?_segments (path : Text) : (segments path).getLast? = some (lastSegment path) := by
  have single : segments (lastSegment path) = [lastSegment path] :=
    pieces_of_notMem (flat_lastSegment path)
  obtain same | ⟨up, same⟩ := lastSegment_cases path
  · rw [← same] at single
    rw [single, List.getLast?_singleton, ← same]
  · have cut : segments path = segments up ++ segments (lastSegment path) :=
      (congrArg segments same).trans (pieces_append rfl up _)
    rw [cut, single, List.getLast?_concat]

/-- The last segment that does not stay where it is. -/
def lastStep? (path : Text) : Option Text := ((segments path).filter fun s => !isIdle s).getLast?

theorem isIdle_eq_false_iff {step : Text} : isIdle step = false ↔ step ≠ [] ∧ step ≠ "." := by
  simp [isIdle]

theorem isIdle_of_lastStep? {path step : Text} (last : lastStep? path = some step) :
    isIdle step = false := by
  simpa using (List.mem_filter.1 (List.mem_of_getLast? last)).2

theorem lastStep?_eq_lastSegment_iff {path : Text} :
    lastStep? path = some (lastSegment path) ↔ isIdle (lastSegment path) = false := by
  constructor
  · exact isIdle_of_lastStep?
  · intro leads
    obtain ⟨above, split⟩ := List.getLast?_eq_some_iff.1 (getLast?_segments path)
    simp [lastStep?, split, leads]

theorem fileName_eq_match (path : Text) :
    fileName path = match lastStep? path with
      | none => []
      | some last => if last = ".." then [] else last := rfl

theorem fileName_eq_nil_iff {path : Text} :
    fileName path = [] ↔ ∀ step ∈ lastStep? path, step = (".." : Text) := by
  rw [fileName_eq_match]
  cases last : lastStep? path with
  | none => simp
  | some step =>
    have leads : step ≠ [] := (isIdle_eq_false_iff.1 (isIdle_of_lastStep? last)).1
    simp [leads]

theorem fileName_eq_iff {path name : Text} (nonempty : name ≠ []) :
    fileName path = name ↔ lastStep? path = some name ∧ name ≠ (".." : Text) := by
  rw [fileName_eq_match]
  cases lastStep? path with
  | none => simp [nonempty.symm]
  | some step =>
    dsimp only
    split
    · next dots => simp [dots, nonempty.symm, eq_comm]
    · next other =>
      rw [Option.some.injEq]
      constructor
      · rintro rfl
        exact ⟨rfl, other⟩
      · exact And.left

/-- The path does not end in dots, nor in a slash behind a name. -/
structure EndsPlainly (path : Text) : Prop where
  ne_dot : lastSegment path ≠ "."
  ne_dots : lastSegment path ≠ ".."
  slash : lastSegment path = [] → ∀ step ∈ lastStep? path, step = (".." : Text)

/-- Only a path that ends plainly has its last segment as its file name. -/
theorem fileName_eq_lastSegment_iff {path : Text} :
    fileName path = lastSegment path ↔ EndsPlainly path := by
  by_cases none : lastSegment path = []
  case pos =>
    rw [none, fileName_eq_nil_iff]
    constructor
    · intro up
      exact ⟨by simp [none], by simp [none], fun _ => up⟩
    · exact fun plain => plain.slash none
  case neg =>
    rw [fileName_eq_iff none, lastStep?_eq_lastSegment_iff, isIdle_eq_false_iff]
    constructor
    · rintro ⟨⟨-, dot⟩, dots⟩
      exact ⟨dot, dots, fun empty => absurd empty none⟩
    · exact fun plain => ⟨⟨none, plain.ne_dot⟩, plain.ne_dots⟩

end NodeClasses.Path
