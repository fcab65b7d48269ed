import NodeClasses.Proofs.Generation.Staging
import NodeClasses.Proofs.Store.Ways

/-!
# What a finished run leaves

A run writes the two files of each job, and nothing keeps their paths apart: they may lead to one
file, within a job or across jobs. A file that a finished run tells of holds the text of the last
write to it: `run_holds_iff`. All output is there if the paths lead to files of their own.
-/

namespace NodeClasses
set_option autoImplicit false

open Text LawfulDisk

/-- The code of each family of a coded table is in the texts of its unit. -/
theorem Table.code_of_mem {t : Table} {stem : Text} {u : CodeUnit} {f : Family}
    (code : t.code stem = .ok u) (member : f ∈ t.families) :
    ∃ c, f.code = .ok c ∧ c.header <:+: u.header ∧ c.source <:+: u.source := by
  obtain ⟨hs, read, rfl⟩ := CodeUnit.pushAll_eq_ok_iff.1 code
  have image : Hierarchy.ofFamily f ∈ hs.map .ok := read ▸ List.mem_map_of_mem member
  obtain ⟨h, inside, own⟩ := List.mem_map.1 image
  obtain ⟨before, after, rfl⟩ := List.append_of_mem inside
  let unit := (CodeUnit.start stem t.includes).appendAll before
  refine ⟨h.code, by rw [Family.code, ← own]; rfl, ⟨unit.header, ofLines
    (after.flatMap Hierarchy.headerLines), ?_⟩, unit.source, ofLines
    (after.flatMap Hierarchy.sourceLines), ?_⟩
  · simp [unit, CodeUnit.appendAll, Hierarchy.code]
  · simp [unit, CodeUnit.appendAll, Hierarchy.code]

namespace Generation

/-- The writes of a job that can be coded. -/
def jobLog (dir : Text) (j : Job) : List (Text × Text) :=
  match j.code with
  | .error _ => []
  | .ok u => [((j.files dir).header, u.header), ((j.files dir).source, u.source)]

/-- The writes of a run, in order. -/
def runLog (dir : Text) (jobs : List Job) : List (Text × Text) := jobs.flatMap (jobLog dir)

theorem jobLog_of_code {dir : Text} {j : Job} {u : CodeUnit} (code : j.code = .ok u) :
    jobLog dir j = [((j.files dir).header, u.header), ((j.files dir).source, u.source)] := by
  simp [jobLog, code]

theorem mem_runLog (dir : Text) {jobs : List Job} {j : Job} {u : CodeUnit} (member : j ∈ jobs)
    (code : j.code = .ok u) :
    ((j.files dir).header, u.header) ∈ runLog dir jobs ∧
      ((j.files dir).source, u.source) ∈ runLog dir jobs := by
  constructor <;> exact List.mem_flatMap.2 ⟨j, member, by simp [jobLog_of_code code]⟩

variable {σ : Type} [Disk σ]

/-- The effect of written jobs is that of their log, and all of them can be coded. -/
theorem Written.writeAll {dir : Text} {jobs : List Job} {s t : σ} (written : Written dir jobs s t) :
    Disk.writeAll (runLog dir jobs) s = .ok t ∧ ∀ j ∈ jobs, ∃ u, j.code = .ok u := by
  induction written with
  | nil s => exact ⟨rfl, by simp⟩
  | cons code header source _ ih =>
    obtain ⟨rest, coded⟩ := ih
    refine ⟨?_, List.forall_mem_cons.2 ⟨⟨_, code⟩, coded⟩⟩
    rw [runLog, List.flatMap_cons, jobLog_of_code code, Disk.writeAll_append_eq_ok]
    refine ⟨_, ?_, rest⟩
    exact Disk.writeAll_cons_eq_ok.2 ⟨_, header, Disk.writeAll_cons_eq_ok.2 ⟨_, source, rfl⟩⟩

/-- Jobs are written exactly if all of them can be coded and their log can be written. -/
theorem written_iff {dir : Text} {jobs : List Job} {s t : σ} :
    Written dir jobs s t ↔
      Disk.writeAll (runLog dir jobs) s = .ok t ∧ ∀ j ∈ jobs, ∃ u, j.code = .ok u := by
  constructor
  · exact Written.writeAll
  · rintro ⟨wrote, coded⟩
    induction jobs generalizing s with
    | nil =>
      obtain rfl := Except.ok.inj wrote
      exact .nil s
    | cons j js ih =>
      obtain ⟨⟨u, code⟩, others⟩ := List.forall_mem_cons.1 coded
      rw [runLog, List.flatMap_cons, jobLog_of_code code] at wrote
      obtain ⟨s₁, header, afterHeader⟩ := Disk.writeAll_cons_eq_ok.1 wrote
      obtain ⟨s₂, source, rest⟩ := Disk.writeAll_cons_eq_ok.1 afterHeader
      exact .cons code header source (ih rest others)

theorem run_eq_ok {dir : Text} {jobs : List Job} {s t : σ} {printed : Streams}
    {pairs : List FilePair} (finished : run dir none jobs s = ⟨t, printed, .ok pairs⟩) :
    Written dir jobs s t ∧ pairs = jobs.map (Job.files dir) := by
  obtain ⟨-, written, -, order⟩ := run_eq_ok_iff.1 finished
  exact ⟨written, order⟩

theorem run_eq_of_files {dir : Text} {jobs : List Job} {s : σ} {pairs : List FilePair}
    (files : (run dir none jobs s).files.toOption = some pairs) :
    run dir none jobs s =
      ⟨(run dir none jobs s).store, (run dir none jobs s).printed, .ok pairs⟩ := by
  generalize run dir none jobs s = r at files ⊢
  obtain ⟨t, printed, e | others⟩ := r
  · simp [Except.toOption] at files
  · simp only [Except.toOption, Option.some.injEq] at files
    rw [files]

variable [LawfulDisk σ]

/-- The files of the job hold exactly the texts of its unit, which have the code of every family. -/
def Delivered (t : σ) (dir : Text) (j : Job) (u : CodeUnit) : Prop :=
  Holds t (j.files dir).header u.header ∧ Holds t (j.files dir).source u.source ∧
    ∀ f ∈ j.table.families, ∃ c, f.code = .ok c ∧ c.header <:+: u.header ∧ c.source <:+: u.source

/-- **The last write of a run counts.** Each path of a finished run leads to a file, which holds
exactly the text that the run wrote to it last. If no two paths of the run lead to one file, each
job has its own text there. -/
theorem run_holds_iff {dir : Text} {jobs : List Job} {s t : σ} {printed : Streams}
    {pairs : List FilePair} (finished : run dir none jobs s = ⟨t, printed, .ok pairs⟩) :
    pairs = jobs.map (Job.files dir) ∧
      ∀ j ∈ jobs, ∃ u, j.code = .ok u ∧
        (∃ text, LastTo t (j.files dir).header (runLog dir jobs) text) ∧
        (∀ text, Holds t (j.files dir).header text ↔
          LastTo t (j.files dir).header (runLog dir jobs) text) ∧
        (∃ text, LastTo t (j.files dir).source (runLog dir jobs) text) ∧
        (∀ text, Holds t (j.files dir).source text ↔
          LastTo t (j.files dir).source (runLog dir jobs) text) ∧
        ((runLog dir jobs).Pairwise (fun v w => ¬ SameFile t v.1 w.1) → Delivered t dir j u) := by
  obtain ⟨written, rfl⟩ := run_eq_ok finished
  obtain ⟨wrote, coded⟩ := written.writeAll
  refine ⟨rfl, fun j member => ?_⟩
  obtain ⟨u, code⟩ := coded j member
  obtain ⟨header, source⟩ := mem_runLog dir member code
  refine ⟨u, code, exists_lastTo_of_mem wrote header, holds_iff_lastTo wrote header,
    exists_lastTo_of_mem wrote source, holds_iff_lastTo wrote source, fun apart => ?_⟩
  have last {path text : Text} (write : (path, text) ∈ runLog dir jobs) : Holds t path text :=
    (holds_iff_lastTo wrote write text).2
      (lastTo_of_pairwise (sameFile_of_mem wrote write) apart write)
  exact ⟨last header, last source, fun f inside => Table.code_of_mem code inside⟩

/-- Two jobs with a family each, to be written under the given base names. -/
def twoJobs (first second : Text) : List Job :=
  [⟨first, [], [⟨"Expr", [⟨"Leaf", []⟩], by decide +kernel⟩]⟩,
    ⟨second, [], [⟨"Stmt", [⟨"Print", []⟩], by decide +kernel⟩]⟩]

/-- Runs two jobs in a store without files. -/
def runTwo (first second : Text) : Result Store GenerationError :=
  run "." none (twoJobs first second) (Store.empty [])

/-- Jobs with base names of their own are delivered. -/
theorem run_holds_iff_apart :
    (runTwo "x" "y").files.toOption = some [⟨"./x.h", "./x.cpp"⟩, ⟨"./y.h", "./y.cpp"⟩] ∧
      ∃ u, (twoJobs "x" "y")[0].code = .ok u ∧
        Delivered (runTwo "x" "y").store "." (twoJobs "x" "y")[0] u := by
  have files : (runTwo "x" "y").files.toOption =
      some [⟨"./x.h", "./x.cpp"⟩, ⟨"./y.h", "./y.cpp"⟩] := by decide +kernel
  have apart : (runLog "." (twoJobs "x" "y")).Pairwise fun v w =>
      Store.file? v.1 (runTwo "x" "y").store ≠ Store.file? w.1 (runTwo "x" "y").store := by
    decide +kernel
  obtain ⟨-, deliver⟩ := run_holds_iff (run_eq_of_files files)
  obtain ⟨u, code, -, -, -, -, delivered⟩ := deliver (twoJobs "x" "y")[0] List.mem_cons_self
  refine ⟨files, u, code, delivered (apart.imp ?_)⟩
  rintro v w differ ⟨file, first, second⟩
  exact differ (first.trans second.symm)

/-- A finished run may lose what it wrote: here the second job overwrites the files of the first. -/
theorem not_run_delivers :
    ¬ ∀ (dir : Text) (jobs : List Job) (s t : Store) (printed : Streams) (pairs : List FilePair),
      run dir none jobs s = ⟨t, printed, .ok pairs⟩ →
        ∀ (i : Nat) (j : Job) (files : FilePair) (u : CodeUnit), jobs[i]? = some j →
          pairs[i]? = some files → j.code = .ok u →
            Holds t files.header u.header ∧ Holds t files.source u.source := by
  intro delivers
  have files : (runTwo "x" "x").files.toOption =
      some [⟨"./x.h", "./x.cpp"⟩, ⟨"./x.h", "./x.cpp"⟩] := by decide +kernel
  have finished := run_eq_of_files files
  obtain ⟨u, code⟩ : ∃ u, (twoJobs "x" "x")[0].code = .ok u := ⟨_, rfl⟩
  obtain ⟨header, -⟩ := delivers _ _ _ _ _ _ finished 0 _ _ u rfl rfl code
  obtain ⟨mode, read⟩ := Store.holds_iff_readFile.1 header
  have lost : ((runTwo "x" "x").store.readFile (encode "./x.h")).toOption.map Prod.fst ≠
      (twoJobs "x" "x")[0].code.toOption.map fun u => encode u.header := by decide +kernel
  refine lost ?_
  rw [code, runTwo, read]
  rfl

end Generation

end NodeClasses
