import Mathlib.Logic.ExistsUnique
import NodeClasses.Generation
import NodeClasses.Proofs.Hierarchy.Malformed

/-!
# How a run ends

A run without a tool is refused for a clash before anything is written, or stops at the first job
that cannot be coded or written, or finishes. `Written` is the effect of the jobs before that one
and `Fails` what the job itself did, both apart from the procedure. The disk is any disk: nothing is
asked of its writes.
-/

namespace NodeClasses.Generation
set_option autoImplicit false

variable {σ : Type} [Disk σ]

/-- The files of the jobs are written, one job after the other and its header before its source. -/
inductive Written (dir : Text) : List Job → σ → σ → Prop where
  | nil (s : σ) : Written dir [] s s
  | cons {j : Job} {js : List Job} {u : CodeUnit} {s s₁ s₂ t : σ} (code : j.code = .ok u)
      (header : Disk.write (j.files dir).header u.header s = .ok s₁)
      (source : Disk.write (j.files dir).source u.source s₁ = .ok s₂)
      (rest : Written dir js s₂ t) : Written dir (j :: js) s t

/-- The job cannot be coded, or one of its files cannot be written. Only what it wrote before that
is changed. -/
inductive Fails (dir : Text) (j : Job) (s : σ) : σ → GenerationError → Prop where
  | malformed {e : MalformedEntry} (first : j.table.FirstMalformed e) :
      Fails dir j s s (.malformed e)
  | header {u : CodeUnit} {fault : Fault} (code : j.code = .ok u)
      (header : Disk.write (j.files dir).header u.header s = .error fault) :
      Fails dir j s s (.unwritable (j.files dir).header fault)
  | source {u : CodeUnit} {fault : Fault} {t : σ} (code : j.code = .ok u)
      (header : Disk.write (j.files dir).header u.header s = .ok t)
      (source : Disk.write (j.files dir).source u.source t = .error fault) :
      Fails dir j s t (.unwritable (j.files dir).source fault)

theorem writeJob_eq_ok_iff {dir : Text} {j : Job} {s t : σ} {files : FilePair} :
    writeJob dir j s = (t, .ok files) ↔
      files = j.files dir ∧ ∃ u s₁, j.code = .ok u ∧
        Disk.write (j.files dir).header u.header s = .ok s₁ ∧
        Disk.write (j.files dir).source u.source s₁ = .ok t := by
  cases code : j.code with
  | error e => simp [writeJob, code]
  | ok u =>
    cases header : Disk.write (j.files dir).header u.header s with
    | error fault => simp [writeJob, writeUnit, code, header]
    | ok s₁ =>
      cases source : Disk.write (j.files dir).source u.source s₁ <;>
        simp [writeJob, writeUnit, code, header, source, and_comm, eq_comm]

theorem writeJob_eq_error_iff {dir : Text} {j : Job} {s t : σ} {e : GenerationError} :
    writeJob dir j s = (t, .error e) ↔ Fails dir j s t e := by
  constructor
  · intro ran
    cases code : j.code with
    | error malformed =>
      simp only [writeJob, code, Prod.mk.injEq, Except.error.injEq] at ran
      obtain ⟨rfl, rfl⟩ := ran
      exact .malformed (Table.code_eq_error_iff.1 code)
    | ok u =>
      cases header : Disk.write (j.files dir).header u.header s with
      | error fault =>
        simp only [writeJob, writeUnit, code, header, Prod.mk.injEq, Except.error.injEq] at ran
        obtain ⟨rfl, rfl⟩ := ran
        exact .header code header
      | ok s₁ =>
        cases source : Disk.write (j.files dir).source u.source s₁ with
        | error fault =>
          simp only [writeJob, writeUnit, code, header, source, Prod.mk.injEq,
            Except.error.injEq] at ran
          obtain ⟨rfl, rfl⟩ := ran
          exact .source code header source
        | ok s₂ => simp [writeJob, writeUnit, code, header, source] at ran
  · rintro (first | ⟨code, header⟩ | ⟨code, header, source⟩)
    · have code : j.code = .error _ := Table.code_eq_error_iff.2 first
      simp [writeJob, code]
    · simp [writeJob, writeUnit, code, header]
    · simp [writeJob, writeUnit, code, header, source]

theorem writeJobs_eq_ok_iff {dir : Text} {jobs : List Job} {s t : σ} {pairs : List FilePair} :
    writeJobs dir jobs s = (t, .ok pairs) ↔
      Written dir jobs s t ∧ pairs = jobs.map (Job.files dir) := by
  constructor
  · intro ran
    induction jobs generalizing s pairs with
    | nil =>
      simp only [writeJobs, Prod.mk.injEq, Except.ok.injEq] at ran
      obtain ⟨rfl, rfl⟩ := ran
      exact ⟨.nil s, rfl⟩
    | cons j js ih =>
      rcases first : writeJob dir j s with ⟨m, e | files⟩
      · simp [writeJobs, first] at ran
      · rcases rest : writeJobs dir js m with ⟨t', e | others⟩
        · simp [writeJobs, first, rest] at ran
        · simp only [writeJobs, first, rest, Prod.mk.injEq, Except.ok.injEq] at ran
          obtain ⟨rfl, rfl⟩ := ran
          obtain ⟨rfl, u, s₁, code, header, source⟩ := writeJob_eq_ok_iff.1 first
          obtain ⟨written, rfl⟩ := ih rest
          exact ⟨.cons code header source written, rfl⟩
  · rintro ⟨written, rfl⟩
    induction written with
    | nil => rfl
    | cons code header source _ ih =>
      have first := writeJob_eq_ok_iff.2 ⟨rfl, _, _, code, header, source⟩
      simp [writeJobs, first, ih]

/-- Jobs before a failing one are written, and it ends the writing. -/
theorem writeJobs_eq_error_iff {dir : Text} {jobs : List Job} {s t : σ} {e : GenerationError} :
    writeJobs dir jobs s = (t, .error e) ↔
      ∃ before j after m, jobs = before ++ j :: after ∧ Written dir before s m ∧
        Fails dir j m t e := by
  constructor
  · intro ran
    induction jobs generalizing s with
    | nil => simp [writeJobs] at ran
    | cons j js ih =>
      rcases first : writeJob dir j s with ⟨m, e' | files⟩
      · simp only [writeJobs, first, Prod.mk.injEq, Except.error.injEq] at ran
        obtain ⟨rfl, rfl⟩ := ran
        exact ⟨[], j, js, s, rfl, .nil s, writeJob_eq_error_iff.1 first⟩
      · rcases rest : writeJobs dir js m with ⟨t', e' | others⟩
        · simp only [writeJobs, first, rest, Prod.mk.injEq, Except.error.injEq] at ran
          obtain ⟨rfl, rfl⟩ := ran
          obtain ⟨-, u, s₁, code, header, source⟩ := writeJob_eq_ok_iff.1 first
          obtain ⟨before, k, after, m', rfl, written, fails⟩ := ih rest
          exact ⟨j :: before, k, after, m', rfl, .cons code header source written, fails⟩
        · simp [writeJobs, first, rest] at ran
  · rintro ⟨before, j, after, m, rfl, written, fails⟩
    have done := writeJobs_eq_ok_iff.2 ⟨written, rfl⟩
    rw [writeJobs_append, done]
    simp [writeJobs, writeJob_eq_error_iff.2 fails]

theorem clash?_eq_none_iff {jobs : List Job} :
    clash? jobs = none ↔ ∀ j ∈ jobs, j.table.clash? = none := by
  simp [clash?]

theorem clash?_eq_some_iff {jobs : List Job} {e : SchemaError} :
    clash? jobs = some e ↔
      ∃ before j after, jobs = before ++ j :: after ∧ j.table.clash? = some e ∧
        ∀ i ∈ before, i.table.clash? = none :=
  List.findSome?_eq_some_iff

/-- The ways in which a run without a tool can end. -/
inductive Ending where
  /-- Two families of a job clash. -/
  | refused
  /-- A job cannot be coded or written. -/
  | stopped
  /-- Every job is written. -/
  | finished

/-- What a run that ends in this way does to the disk and what it tells. -/
def Ending.Describes (dir : Text) (jobs : List Job) (s : σ) :
    Ending → Result σ GenerationError → Prop
  | .refused, r =>
    ∃ before j after e, jobs = before ++ j :: after ∧ (∀ i ∈ before, i.table.clash? = none) ∧
      j.table.clash? = some e ∧ r = ⟨s, .silent, .error (.schema e)⟩
  | .stopped, r =>
    (∀ j ∈ jobs, j.table.clash? = none) ∧
      ∃ before j after m t e, jobs = before ++ j :: after ∧ Written dir before s m ∧
        Fails dir j m t e ∧ r = ⟨t, .silent, .error e⟩
  | .finished, r =>
    (∀ j ∈ jobs, j.table.clash? = none) ∧
      ∃ t, Written dir jobs s t ∧ r = ⟨t, .silent, .ok (jobs.map (Job.files dir))⟩

/-- An ending that describes a result describes what the run gives. -/
theorem Ending.Describes.eq_run {dir : Text} {jobs : List Job} {s : σ} {ending : Ending}
    {r : Result σ GenerationError} (h : ending.Describes dir jobs s r) :
    r = run dir none jobs s := by
  cases ending with
  | refused =>
    obtain ⟨before, j, after, e, split, free, clash, rfl⟩ := h
    exact (run_of_clash (clash?_eq_some_iff.2 ⟨before, j, after, split, clash, free⟩)).symm
  | stopped =>
    obtain ⟨free, before, j, after, m, t, e, split, written, fails, rfl⟩ := h
    have wrote := writeJobs_eq_error_iff.2 ⟨before, j, after, m, split, written, fails⟩
    simp [run, clash?_eq_none_iff.2 free, wrote]
  | finished =>
    obtain ⟨free, t, written, rfl⟩ := h
    simp [run, clash?_eq_none_iff.2 free, writeJobs_eq_ok_iff.2 ⟨written, rfl⟩]

theorem exists_ending (dir : Text) (jobs : List Job) (s : σ) :
    ∃ ending : Ending, ending.Describes dir jobs s (run dir none jobs s) := by
  cases clash : clash? jobs with
  | some e =>
    obtain ⟨before, j, after, split, found, free⟩ := clash?_eq_some_iff.1 clash
    exact ⟨.refused, before, j, after, e, split, free, found, run_of_clash clash⟩
  | none =>
    have free := clash?_eq_none_iff.1 clash
    rcases wrote : writeJobs dir jobs s with ⟨t, e | pairs⟩
    · obtain ⟨before, j, after, m, split, written, fails⟩ := writeJobs_eq_error_iff.1 wrote
      refine ⟨.stopped, free, before, j, after, m, t, e, split, written, fails, ?_⟩
      simp [run, clash, wrote]
    · obtain ⟨written, rfl⟩ := writeJobs_eq_ok_iff.1 wrote
      refine ⟨.finished, free, t, written, ?_⟩
      simp [run, clash, wrote]

/-- A run has files exactly if there is no clash and every job is written. -/
theorem run_eq_ok_iff {dir : Text} {jobs : List Job} {s t : σ} {printed : Streams}
    {pairs : List FilePair} :
    run dir none jobs s = ⟨t, printed, .ok pairs⟩ ↔
      (∀ j ∈ jobs, j.table.clash? = none) ∧ Written dir jobs s t ∧ printed = .silent ∧
        pairs = jobs.map (Job.files dir) := by
  constructor
  · intro ran
    obtain ⟨ending, described⟩ := exists_ending dir jobs s
    rw [ran] at described
    cases ending with
    | refused =>
      obtain ⟨_, _, _, _, -, -, -, same⟩ := described
      simp at same
    | stopped =>
      obtain ⟨-, _, _, _, _, _, _, -, -, -, same⟩ := described
      simp at same
    | finished =>
      obtain ⟨free, t', written, same⟩ := described
      simp only [Result.mk.injEq, Except.ok.injEq] at same
      obtain ⟨rfl, rfl, rfl⟩ := same
      exact ⟨free, written, rfl, rfl⟩
  · rintro ⟨free, written, rfl, rfl⟩
    have ended : Ending.finished.Describes dir jobs s
        ⟨t, .silent, .ok (jobs.map (Job.files dir))⟩ := ⟨free, t, written, rfl⟩
    exact ended.eq_run.symm

/-- A result tells the ending: only a refused run has a clash, and only a finished one has files. -/
theorem Ending.Describes.unique {dir : Text} {jobs : List Job} {s : σ} {a b : Ending}
    {r : Result σ GenerationError} (ha : a.Describes dir jobs s r) (hb : b.Describes dir jobs s r) :
    a = b := by
  have clashes {r : Result σ GenerationError} (h : Ending.refused.Describes dir jobs s r) :
      ¬ ∀ j ∈ jobs, j.table.clash? = none := by
    obtain ⟨before, j, after, e, rfl, -, clash, -⟩ := h
    intro free
    simp [free j (by simp)] at clash
  have errors {r : Result σ GenerationError} (h : Ending.stopped.Describes dir jobs s r) :
      ¬ Ending.finished.Describes dir jobs s r := by
    obtain ⟨-, before, j, after, m, t, e, -, -, -, rfl⟩ := h
    rintro ⟨-, t', -, same⟩
    simp at same
  -- Clashes tell a refused run from the others, and errors tell a stopped run from a finished one.
  cases a <;> cases b
  case refused.refused | stopped.stopped | finished.finished => rfl
  case refused.stopped | refused.finished => exact absurd hb.1 (clashes ha)
  case stopped.refused | finished.refused => exact absurd ha.1 (clashes hb)
  case stopped.finished => exact absurd hb (errors ha)
  case finished.stopped => exact absurd ha (errors hb)

/-- **A run is staged.** On every disk exactly one ending describes what a run without a tool gives,
and no ending describes anything else. -/
theorem run_ends_in_one_way (dir : Text) (jobs : List Job) (s : σ) :
    (∃! ending : Ending, ending.Describes dir jobs s (run dir none jobs s)) ∧
      ∀ (ending : Ending) (r : Result σ GenerationError),
        ending.Describes dir jobs s r → r = run dir none jobs s := by
  refine ⟨?_, fun ending r described => described.eq_run⟩
  obtain ⟨ending, described⟩ := exists_ending dir jobs s
  exact ⟨ending, described, fun other h => h.unique described⟩

end NodeClasses.Generation
