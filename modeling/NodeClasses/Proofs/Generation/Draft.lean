import NodeClasses.CommandLine

/-!
# Drafts of a run

A run asks the disk for one write after the other, and a write that fails ends it. So it makes no
difference if the run is made on a draft first and the writes of the draft are done afterwards:
`Generation.run_eq_of_draft` for jobs, `CommandLine.run_eq_of_draft` for calls. Nothing is asked of
the disk.
-/

namespace NodeClasses
set_option autoImplicit false

variable {σ : Type} [Disk σ]

namespace Disk

theorem perform_append (log log' : List (Text × Text)) (s : σ) :
    perform (log ++ log') s =
      match perform log s with
      | (t, some failed) => (t, some failed)
      | (t, none) => perform log' t := by
  induction log generalizing s with
  | nil => rfl
  | cons w log ih =>
    obtain ⟨path, text⟩ := w
    rw [List.cons_append, perform, perform]
    cases Disk.write path text s with
    | error fault => rfl
    | ok t => exact ih t

end Disk

namespace Generation

/-- What writing tells when the writes of a draft are done: the fault of the one that failed, or
else what the draft told. -/
def settled {α : Type} (told : Except GenerationError α) :
    σ × Option (Text × Fault) → σ × Except GenerationError α
  | (t, none) => (t, told)
  | (t, some (path, fault)) => (t, .error (.unwritable path fault))

theorem writeUnit_settled (files : FilePair) (u : CodeUnit) (s : σ) :
    writeUnit files u s =
      settled (.ok files)
        (Disk.perform [(files.header, u.header), (files.source, u.source)] s) := by
  rw [writeUnit, Disk.perform]
  cases Disk.write files.header u.header s with
  | error fault => rfl
  | ok t =>
    dsimp only
    rw [Disk.perform]
    cases Disk.write files.source u.source t with
    | error fault => rfl
    | ok t' => rfl

variable (σ)

/-- A job adds writes to a draft. Done on a disk, they come to what the job does there. -/
theorem writeJob_draft (dir : Text) (j : Job) (d : Draft) :
    ∃ log told, writeJob dir j d = (⟨d.writes ++ log⟩, told) ∧
      ∀ s : σ, writeJob dir j s = settled told (Disk.perform log s) := by
  cases code : j.code with
  | error e =>
    refine ⟨[], .error (.malformed e), ?_, fun s => ?_⟩
    · simp [writeJob, code]
    · simp [writeJob, code, Disk.perform, settled]
  | ok u =>
    let files := j.files dir
    refine ⟨[(files.header, u.header), (files.source, u.source)], .ok files, ?_, fun s => ?_⟩
    · simp [writeJob, code, writeUnit, Disk.write, files]
    · simp only [writeJob, code]
      exact writeUnit_settled files u s

theorem writeJobs_draft (dir : Text) (jobs : List Job) (d : Draft) :
    ∃ log told, writeJobs dir jobs d = (⟨d.writes ++ log⟩, told) ∧
      ∀ s : σ, writeJobs dir jobs s = settled told (Disk.perform log s) := by
  induction jobs generalizing d with
  | nil => exact ⟨[], .ok [], by simp [writeJobs], fun s => rfl⟩
  | cons j js ih =>
    -- What is drafted of the first job comes first. The others follow if it could be coded.
    obtain ⟨log, told, drafted, first⟩ := writeJob_draft σ dir j d
    cases told with
    | error e =>
      refine ⟨log, .error e, by simp only [writeJobs, drafted], fun s => ?_⟩
      rw [writeJobs, first s]
      rcases Disk.perform log s with ⟨t, _ | ⟨path, fault⟩⟩ <;> rfl
    | ok files =>
      obtain ⟨log', told', drafted', rest⟩ := ih ⟨d.writes ++ log⟩
      refine ⟨log ++ log', told'.map (files :: ·), ?_, fun s => ?_⟩
      · rw [writeJobs, drafted]
        dsimp only
        rw [drafted', List.append_assoc]
        cases told' <;> rfl
      · rw [writeJobs, first s, Disk.perform_append]
        rcases Disk.perform log s with ⟨t, _ | ⟨path, fault⟩⟩
        · dsimp only [settled]
          rw [rest t]
          rcases Disk.perform log' t with ⟨t', _ | ⟨path, fault⟩⟩
          · cases told' <;> rfl
          · rfl
        · rfl

variable {σ}

/-- **A run may be drafted.** On any disk a run comes to the same as the writes of its draft, done
in order up to the first that fails. -/
theorem run_eq_of_draft (dir : Text) (jobs : List Job) (s : σ) :
    run dir none jobs s =
      let draft := run dir none jobs (⟨[]⟩ : Draft)
      match Disk.perform draft.store.writes s with
      | (t, none) => ⟨t, .silent, draft.files⟩
      | (t, some (path, fault)) => ⟨t, .silent, .error (.unwritable path fault)⟩ := by
  cases clash : clash? jobs with
  | some e => simp only [run_of_clash clash, Disk.perform]
  | none =>
    obtain ⟨log, told, drafted, onDisk⟩ := writeJobs_draft σ dir jobs ⟨[]⟩
    have draft : run dir none jobs (⟨[]⟩ : Draft) = ⟨⟨log⟩, .silent, told⟩ := by
      cases told <;> simp [run, clash, drafted]
    rw [draft]
    simp only [run, clash, onDisk s]
    -- The draft has told its result, and the disk may still refuse one of its writes.
    rcases Disk.perform log s with ⟨t, _ | ⟨path, fault⟩⟩
    · cases told <;> rfl
    · rfl

end Generation

namespace CommandLine

theorem generate_eq_of_draft (p : Program) (call : List Text) (s : σ) :
    generate p call none s =
      let draft := generate p call none (⟨[]⟩ : Draft)
      match Disk.perform draft.store.writes s with
      | (t, none) => ⟨t, .silent, draft.files⟩
      | (t, some (path, fault)) => ⟨t, .silent, .error (.generation (.unwritable path fault))⟩ := by
  cases asked : output? call with
  | none => simp only [generate, generateWith_of_none asked, Disk.perform]
  | some output =>
    simp only [generate, generateWith_of_some asked, runJob, Program.job]
    rw [Generation.run_eq_of_draft]
    dsimp only
    rcases Disk.perform _ s with ⟨t, _ | ⟨path, fault⟩⟩ <;> rfl

/-- **A call may be drafted.** On any disk a call comes to the same as the writes of its draft, done
in order up to the first that fails, and it reports what the draft did, or that write. -/
theorem run_eq_of_draft (p : Program) (call : List Text) (s : σ) :
    run p call none s =
      let draft := run p call none (⟨[]⟩ : Draft)
      match Disk.perform draft.1.writes s with
      | (t, none) => (t, draft.2)
      | (t, some (path, fault)) =>
        (t, report (.error (.generation (.unwritable path fault)) : Except CommandError Unit)) := by
  have silent : (generate p call none (⟨[]⟩ : Draft)).printed = .silent := by
    rw [generate_eq_of_draft]
    dsimp only
    rcases Disk.perform _ (⟨[]⟩ : Draft) with ⟨t, _ | ⟨path, fault⟩⟩ <;> rfl
  simp only [run, generate_eq_of_draft p call s, silent, Streams.silent_append]
  rcases Disk.perform _ s with ⟨t, _ | ⟨path, fault⟩⟩ <;> rfl

end CommandLine

end NodeClasses
