import NodeClasses.Disk
import NodeClasses.Formatter

/-!
# Generation

Jobs are run in order, on any disk. The type names of every job are checked before anything is
written; then each job is coded in full before its header and its source file are written; a tool
sees the files when all of them are there. `run_of_clash` says that a clash leaves the disk alone.
-/

namespace NodeClasses
set_option autoImplicit false

open Text

/-- Why a list of jobs could not be run. -/
inductive GenerationError where
  /-- Two families of a job declare the same type. Nothing is written. -/
  | schema (e : SchemaError)
  /-- An entry is no field. The files of earlier jobs are written. -/
  | malformed (e : MalformedEntry)
  /-- A file cannot be written. What comes before it is written. -/
  | unwritable (path : Text) (fault : Fault)
  deriving DecidableEq, Repr

/-- The wording for a file that cannot be written. -/
def unwritableMessage (path reason : Text) : Text :=
  "Failed to write " ++ quoted path ++ ": " ++ reason

/-- The wording of a generation error. -/
def GenerationError.message : GenerationError → Text
  | .schema e => "Schema error: " ++ e.message
  | .malformed e => e.message
  | .unwritable path fault => unwritableMessage path fault.message

namespace Generation

variable {σ : Type} [Disk σ]

/-- Writes the two files of a unit, the header first. -/
def writeUnit (files : FilePair) (u : CodeUnit) (s : σ) : σ × Except GenerationError FilePair :=
  match Disk.write files.header u.header s with
  | .error fault => (s, .error (.unwritable files.header fault))
  | .ok s₁ =>
    match Disk.write files.source u.source s₁ with
    | .error fault => (s₁, .error (.unwritable files.source fault))
    | .ok s₂ => (s₂, .ok files)

/-- Codes a job and writes its files. -/
def writeJob (dir : Text) (j : Job) (s : σ) : σ × Except GenerationError FilePair :=
  match j.code with
  | .error e => (s, .error (.malformed e))
  | .ok u => writeUnit (j.files dir) u s

/-- Codes and writes jobs in order, up to the first error. -/
def writeJobs (dir : Text) : List Job → σ → σ × Except GenerationError (List FilePair)
  | [], s => (s, .ok [])
  | j :: js, s =>
    match writeJob dir j s with
    | (t, .error e) => (t, .error e)
    | (t, .ok files) =>
      match writeJobs dir js t with
      | (t', .error e) => (t', .error e)
      | (t', .ok rest) => (t', .ok (files :: rest))

/-- The first clash in a list of jobs. -/
def clash? (jobs : List Job) : Option SchemaError := jobs.findSome? fun j => j.table.clash?

/-- What a run leaves behind. -/
structure Result (σ ε : Type) where
  store : σ
  /-- What the tool printed. -/
  printed : Streams
  files : Except ε (List FilePair)

/-- Runs jobs in a directory, and then a tool over the files, if there is one. -/
def run (dir : Text) (tool : Option (Tool.On σ)) (jobs : List Job) (s : σ) :
    Result σ GenerationError :=
  match clash? jobs with
  | some e => ⟨s, .silent, .error (.schema e)⟩
  | none =>
    match writeJobs dir jobs s with
    | (t, .error e) => ⟨t, .silent, .error e⟩
    | (t, .ok pairs) =>
      match tool with
      | none => ⟨t, .silent, .ok pairs⟩
      | some tool =>
        let (t, printed) := Formatter.formatAll tool pairs t
        ⟨t, printed, .ok pairs⟩

/-- A clash in any job is found before anything is written. -/
theorem run_of_clash {dir : Text} {tool : Option (Tool.On σ)} {jobs : List Job} {s : σ}
    {e : SchemaError} (h : clash? jobs = some e) :
    run dir tool jobs s = ⟨s, .silent, .error (.schema e)⟩ := by
  simp [run, h]

theorem writeJobs_append (dir : Text) (js ks : List Job) (s : σ) :
    writeJobs dir (js ++ ks) s =
      match writeJobs dir js s with
      | (t, .error e) => (t, .error e)
      | (t, .ok pairs) =>
        match writeJobs dir ks t with
        | (t', .error e) => (t', .error e)
        | (t', .ok rest) => (t', .ok (pairs ++ rest)) := by
  induction js generalizing s with
  | nil =>
    simp only [List.nil_append, writeJobs]
    rcases writeJobs dir ks s with ⟨t, e | pairs⟩ <;> rfl
  | cons j js ih =>
    simp only [List.cons_append, writeJobs]
    rcases writeJob dir j s with ⟨t, e | files⟩
    · rfl
    · dsimp only
      rw [ih]
      rcases writeJobs dir js t with ⟨t', e | pairs⟩
      · rfl
      · dsimp only
        rcases writeJobs dir ks t' with ⟨t'', e | rest⟩ <;> rfl

end Generation

end NodeClasses
