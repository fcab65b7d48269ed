import NodeClasses.Proofs.Generation.Output

/-!
# Formatting after the writing

A tool comes to the files of a run when all of them are written, and what it does has no influence
on what the run tells. That it is called once for each pair of files, and when, cannot be seen in
the disk that it leaves, as the tool may change anything there. So the run is watched on a disk that
records its writes and the calls of the tool: `run_formatsAfterwards`.
-/

namespace NodeClasses
set_option autoImplicit false

open Text

/-- What happens to a disk. -/
inductive Event where
  /-- A file is written. -/
  | write (path text : Text)
  /-- A tool is called. -/
  | call (arguments : List Text)
  deriving DecidableEq, Repr

/-- A disk with a record of what happened to it. -/
structure Recorded (σ : Type) where
  disk : σ
  /-- What happened, in order. A write that failed did not happen. -/
  events : List Event

namespace Recorded

variable {σ : Type} [Disk σ]

instance : Disk (Recorded σ) where
  write path text s :=
    (Disk.write path text s.disk).map fun t => ⟨t, s.events ++ [.write path text]⟩

/-- The events of a log of writes. -/
def writes (log : List (Text × Text)) : List Event := log.map fun w => .write w.1 w.2

theorem write_of_ok {path text : Text} {s t : σ} (written : Disk.write path text s = .ok t)
    (events : List Event) :
    Disk.write path text (⟨s, events⟩ : Recorded σ) = .ok ⟨t, events ++ writes [(path, text)]⟩ := by
  change (Disk.write path text s).map _ = _
  rw [written]
  rfl

theorem write_of_error {path text : Text} {s : σ} {fault : Fault}
    (failed : Disk.write path text s = .error fault) (events : List Event) :
    Disk.write path text (⟨s, events⟩ : Recorded σ) = .error fault := by
  change (Disk.write path text s).map _ = _
  rw [failed]
  rfl

omit [Disk σ] in
/-- The tool, with a record of its calls. It sees the disk and not the record. -/
def watch (tool : Tool.On σ) : Tool.On (Recorded σ) := fun arguments s =>
  let result := tool arguments s.disk
  ⟨⟨result.store, s.events ++ [.call arguments]⟩, result.printed, result.outcome⟩

end Recorded

namespace Formatter

variable {σ : Type} (tool : Tool.On σ)

/-- Formatting goes on from what each call leaves, however the call ends. -/
theorem store_formatAll (pairs : List FilePair) (s : σ) :
    (formatAll tool pairs s).1 =
      pairs.foldl (fun t files => (tool (arguments files) t).store) s := by
  induction pairs generalizing s with
  | nil => rfl
  | cons files rest ih => exact ih _

/-- A record of formatting has a call for each pair. -/
theorem formatAll_watch (pairs : List FilePair) (s : σ) (events : List Event) :
    formatAll (Recorded.watch tool) pairs ⟨s, events⟩ =
      (⟨(formatAll tool pairs s).1, events ++ pairs.map fun files => .call (arguments files)⟩,
        (formatAll tool pairs s).2) := by
  induction pairs generalizing s events with
  | nil => simp [formatAll]
  | cons files rest ih => simp [formatAll, Recorded.watch, ih]

end Formatter

namespace Generation

open Recorded

variable {σ : Type} [Disk σ] {dir : Text} {jobs : List Job} {s t : σ}

theorem Written.recorded (written : Written dir jobs s t) (events : List Event) :
    Written dir jobs (⟨s, events⟩ : Recorded σ) ⟨t, events ++ writes (runLog dir jobs)⟩ := by
  induction written generalizing events with
  | nil s => simpa [runLog, writes] using Written.nil (⟨s, events⟩ : Recorded σ)
  | @cons j js u s s₁ s₂ t code header source _ ih =>
    have log : events ++ writes (runLog dir (j :: js)) =
        events ++ writes [((j.files dir).header, u.header)] ++
          writes [((j.files dir).source, u.source)] ++ writes (runLog dir js) := by
      simp [runLog, jobLog_of_code code, writes]
    rw [log]
    exact .cons code (write_of_ok header _) (write_of_ok source _) (ih _)

theorem Fails.recorded {j : Job} {e : GenerationError} (fails : Fails dir j s t e)
    (events : List Event) :
    ∃ log, Fails dir j (⟨s, events⟩ : Recorded σ) ⟨t, events ++ writes log⟩ e := by
  cases fails with
  | malformed first => exact ⟨[], by simpa [writes] using Fails.malformed first⟩
  | header code header =>
    exact ⟨[], by simpa [writes] using Fails.header code (write_of_error header events)⟩
  | source code header source =>
    exact ⟨_, Fails.source code (write_of_ok header events) (write_of_error source _)⟩

/-- A record of a run without a tool has writes only, and all of them if the run finishes. -/
theorem run_recorded (dir : Text) (jobs : List Job) (s : σ) :
    ∃ log, run dir none jobs (⟨s, []⟩ : Recorded σ) =
        ⟨⟨(run dir none jobs s).store, writes log⟩, (run dir none jobs s).printed,
          (run dir none jobs s).files⟩ ∧
      ∀ pairs, (run dir none jobs s).files = .ok pairs → log = runLog dir jobs := by
  obtain ⟨ending, described⟩ := exists_ending dir jobs s
  generalize run dir none jobs s = r at described ⊢
  cases ending with
  | refused =>
    obtain ⟨before, j, after, e, split, free, clash, rfl⟩ := described
    have recorded : Ending.refused.Describes dir jobs (⟨s, []⟩ : Recorded σ)
        ⟨⟨s, writes []⟩, .silent, .error (.schema e)⟩ :=
      ⟨before, j, after, e, split, free, clash, rfl⟩
    exact ⟨[], recorded.eq_run.symm, by simp⟩
  | stopped =>
    obtain ⟨free, before, j, after, m, t, e, split, written, fails, rfl⟩ := described
    obtain ⟨log, fails⟩ := fails.recorded ([] ++ writes (runLog dir before))
    have recorded : Ending.stopped.Describes dir jobs (⟨s, []⟩ : Recorded σ)
        ⟨⟨t, writes (runLog dir before ++ log)⟩, .silent, .error e⟩ :=
      ⟨free, before, j, after, _, _, e, split, written.recorded [], fails, by simp [writes]⟩
    exact ⟨_, recorded.eq_run.symm, by simp⟩
  | finished =>
    obtain ⟨free, t, written, rfl⟩ := described
    have recorded : Ending.finished.Describes dir jobs (⟨s, []⟩ : Recorded σ)
        ⟨⟨t, writes (runLog dir jobs)⟩, .silent, .ok (jobs.map (Job.files dir))⟩ :=
      ⟨free, _, written.recorded [], by simp⟩
    exact ⟨_, recorded.eq_run.symm, fun _ _ => rfl⟩

section

variable (tool : Tool.On σ)

/-- Without files there is nothing to format. -/
theorem run_some_of_error {e : GenerationError} (failed : (run dir none jobs s).files = .error e) :
    run dir (some tool) jobs s = run dir none jobs s := by
  unfold run at failed ⊢
  cases clash : clash? jobs with
  | some e' => rfl
  | none =>
    rcases wrote : writeJobs dir jobs s with ⟨t, e' | pairs⟩
    · rfl
    · simp [clash, wrote] at failed

/-- Formatting starts from the disk with all the files. -/
theorem run_some_of_ok {pairs : List FilePair}
    (finished : (run dir none jobs s).files = .ok pairs) :
    run dir (some tool) jobs s =
      ⟨(Formatter.formatAll tool pairs (run dir none jobs s).store).1,
        (Formatter.formatAll tool pairs (run dir none jobs s).store).2, .ok pairs⟩ := by
  unfold run at finished ⊢
  cases clash : clash? jobs with
  | some e => simp [clash] at finished
  | none =>
    rcases wrote : writeJobs dir jobs s with ⟨t, e | others⟩
    · simp [clash, wrote] at finished
    · obtain rfl : others = pairs := by simpa [clash, wrote] using finished
      rfl

end

/-- The run with the tool, recorded from its start. -/
def recordedRun (dir : Text) (tool : Tool.On σ) (jobs : List Job) (s : σ) :
    Result (Recorded σ) GenerationError :=
  run dir (some (watch tool)) jobs ⟨s, []⟩

/-- A result without the record. -/
def unrecorded (r : Result (Recorded σ) GenerationError) : Result σ GenerationError :=
  ⟨r.store.disk, r.printed, r.files⟩

/-- A run with a tool is the run without it, and then the tool. -/
structure FormatsAfterwards (dir : Text) (tool : Tool.On σ) (jobs : List Job) (s : σ) : Prop where
  /-- The tool has no influence on what the run tells. -/
  files : (run dir (some tool) jobs s).files = (run dir none jobs s).files
  /-- The record is one of this run. -/
  recorded : unrecorded (recordedRun dir tool jobs s) = run dir (some tool) jobs s
  /-- A run that fails leaves what it leaves without the tool, and the tool is not called. -/
  failed : ∀ e, (run dir none jobs s).files = .error e →
    (run dir (some tool) jobs s).store = (run dir none jobs s).store ∧
      ∀ arguments, Event.call arguments ∉ (recordedRun dir tool jobs s).store.events
  /-- In a run that finishes the tool is called for each pair, in order and behind all writes, and
  each call goes on from what the one before left, whatever its outcome. -/
  finished : ∀ pairs, (run dir none jobs s).files = .ok pairs →
    pairs = jobs.map (Job.files dir) ∧ (∀ j ∈ jobs, ∃ u, j.code = .ok u) ∧
      (recordedRun dir tool jobs s).store.events =
        writes (runLog dir jobs) ++ pairs.map (fun p => .call ["-i", p.header, p.source]) ∧
      (run dir (some tool) jobs s).store =
        pairs.foldl (fun t p => (tool ["-i", p.header, p.source] t).store)
          (run dir none jobs s).store

/-- **Formatting has no influence.** On every disk, a run with any tool whatever tells what the run
without it tells, and calls the tool only behind the writes. -/
theorem run_formatsAfterwards (dir : Text) (tool : Tool.On σ) (jobs : List Job) (s : σ) :
    FormatsAfterwards dir tool jobs s := by
  obtain ⟨log, recorded, all⟩ := run_recorded dir jobs s
  have files : (run dir none jobs (⟨s, []⟩ : Recorded σ)).files = (run dir none jobs s).files := by
    rw [recorded]
  cases told : (run dir none jobs s).files with
  | error e =>
    have plain := run_some_of_error tool told
    have watched : recordedRun dir tool jobs s = _ :=
      run_some_of_error (watch tool) (files.trans told)
    rw [recorded] at watched
    constructor
    case files => rw [plain]
    case recorded => rw [watched, plain, unrecorded]
    case failed =>
      rintro e' -
      rw [watched, plain]
      exact ⟨rfl, fun arguments => by simp [writes]⟩
    case finished => simp [told]
  | ok pairs =>
    have plain := run_some_of_ok tool told
    have watched : recordedRun dir tool jobs s = _ := run_some_of_ok (watch tool) (files.trans told)
    rw [recorded, Formatter.formatAll_watch, all pairs told] at watched
    constructor
    case files => rw [plain, told]
    case recorded => rw [watched, plain, unrecorded]
    case failed => simp [told]
    case finished =>
      rintro others same
      obtain rfl : pairs = others := by simpa [told] using same
      obtain ⟨written, order⟩ := run_eq_ok (run_eq_of_files (by rw [told]; rfl))
      refine ⟨order, written.writeAll.2, ?_, ?_⟩
      · rw [watched]
        rfl
      · rw [plain, Formatter.store_formatAll]
        rfl

end Generation

end NodeClasses
