import NodeClasses.Proofs.Generation.Output
import NodeClasses.Proofs.Store.Layout

/-!
# Running again

A run overwrites. What is at its paths from an earlier run, or from anywhere else, has no influence
on how the run ends, and if the run finishes nothing of it is left: `run_overwrites`. The disk is
laid out; jobs may have paths to one file in common.
-/

namespace NodeClasses.Generation
set_option autoImplicit false

open LawfulDisk LaidOut

variable {σ : Type} [Disk σ] {dir : Text}

section

variable [LawfulDisk σ]

/-- The path of the header or of the source file of a job leads to the file. -/
def IsOutput (dir : Text) (jobs : List Job) (s : σ) (file : File σ) : Prop :=
  ∃ j ∈ jobs, file? (j.files dir).header s = some file ∨ file? (j.files dir).source s = some file

theorem IsOutput.reaches {jobs : List Job} {s : σ} {file : File σ}
    (output : IsOutput dir jobs s file) (coded : ∀ j ∈ jobs, ∃ u, j.code = .ok u) :
    Reaches (runLog dir jobs) s file := by
  obtain ⟨j, member, leads⟩ := output
  obtain ⟨u, code⟩ := coded j member
  obtain ⟨header, source⟩ := mem_runLog dir member code
  rcases leads with leads | leads
  · exact ⟨_, header, leads⟩
  · exact ⟨_, source, leads⟩

end

variable [LawfulDisk σ] [LaidOut σ]

theorem Written.of_layout {jobs : List Job} {s s' t : σ} (written : Written dir jobs s t)
    (layouts : layout s = layout s') : ∃ t', Written dir jobs s' t' ∧ layout t = layout t' := by
  obtain ⟨wrote, coded⟩ := written_iff.1 written
  obtain ⟨t', wrote', ends⟩ := exists_writeAll_of_layout layouts wrote
  exact ⟨t', written_iff.2 ⟨wrote', coded⟩, ends⟩

theorem Fails.of_layout {j : Job} {s s' t : σ} {e : GenerationError} (fails : Fails dir j s t e)
    (layouts : layout s = layout s') : ∃ t', Fails dir j s' t' e := by
  cases fails with
  | malformed first => exact ⟨s', .malformed first⟩
  | header code header => exact ⟨s', .header code (write_error_of_layout layouts header _)⟩
  | source code header source =>
    obtain ⟨t', header', between⟩ := exists_write_of_layout layouts header _
    exact ⟨t', .source code header' (write_error_of_layout between source _)⟩

/-- What a run tells depends on the layout only. -/
theorem files_run_congr (jobs : List Job) {s s' : σ} (layouts : layout s = layout s') :
    (run dir none jobs s).files = (run dir none jobs s').files := by
  obtain ⟨ending, described⟩ := exists_ending dir jobs s
  generalize run dir none jobs s = r at described ⊢
  cases ending with
  | refused =>
    obtain ⟨before, j, after, e, split, free, clash, rfl⟩ := described
    have other : Ending.refused.Describes dir jobs s' ⟨s', .silent, .error (.schema e)⟩ :=
      ⟨before, j, after, e, split, free, clash, rfl⟩
    rw [← other.eq_run]
  | stopped =>
    obtain ⟨free, before, j, after, m, t, e, split, written, fails, rfl⟩ := described
    obtain ⟨m', written', between⟩ := written.of_layout layouts
    obtain ⟨t', fails'⟩ := fails.of_layout between
    have other : Ending.stopped.Describes dir jobs s' ⟨t', .silent, .error e⟩ :=
      ⟨free, before, j, after, m', t', e, split, written', fails', rfl⟩
    rw [← other.eq_run]
  | finished =>
    obtain ⟨free, t, written, rfl⟩ := described
    obtain ⟨t', written', -⟩ := written.of_layout layouts
    rw [run_eq_ok_iff.2 ⟨free, written', rfl, rfl⟩]

/-- Two disks that differ at most in what the files at the paths of the jobs hold. -/
structure EqualButOutput (dir : Text) (jobs : List Job) (s s' : σ) : Prop where
  layouts : layout s = layout s'
  elsewhere : ∀ file : File σ, ¬ IsOutput dir jobs s file → bytes file s = bytes file s'

/-- **A run overwrites.** A finished run can be run again: it tells the same and the disk stays
exactly as it is. And whatever the files at its paths held before, a run tells the same, and if it
finishes it leaves the same disk. -/
theorem run_overwrites (dir : Text) (jobs : List Job) (s : σ) :
    (∀ t printed pairs, run dir none jobs s = ⟨t, printed, .ok pairs⟩ →
        run dir none jobs t = ⟨t, printed, .ok pairs⟩) ∧
      ∀ s', EqualButOutput dir jobs s s' →
        (run dir none jobs s).files = (run dir none jobs s').files ∧
          ∀ pairs, (run dir none jobs s).files = .ok pairs →
            run dir none jobs s = run dir none jobs s' := by
  constructor
  · intro t printed pairs ran
    obtain ⟨free, written, silent, order⟩ := run_eq_ok_iff.1 ran
    obtain ⟨wrote, coded⟩ := written_iff.1 written
    exact run_eq_ok_iff.2 ⟨free, written_iff.2 ⟨writeAll_again wrote, coded⟩, silent, order⟩
  · intro s' equal
    refine ⟨files_run_congr jobs equal.layouts, fun pairs told => ?_⟩
    have ran : run dir none jobs s = ⟨_, _, .ok pairs⟩ := run_eq_of_files (by rw [told]; rfl)
    obtain ⟨free, written, silent, order⟩ := run_eq_ok_iff.1 ran
    obtain ⟨wrote, coded⟩ := written_iff.1 written
    have start (file : File σ) :
        Reaches (runLog dir jobs) s file ∨ bytes file s = bytes file s' := by
      by_cases output : IsOutput dir jobs s file
      · exact .inl (output.reaches coded)
      · exact .inr (equal.elsewhere file output)
    have wrote' := writeAll_forgets equal.layouts start wrote
    rw [ran, run_eq_ok_iff.2 ⟨free, written_iff.2 ⟨wrote', coded⟩, silent, order⟩]

/-- A store with one file, named `x.h`. -/
def holding (text : Text) : Store := (Store.empty []).put [("x.h" : Text)] (.file text 0o644)

theorem content_holding {number : Nat} (apart : number ≠ 1) (text other : Text) :
    (holding text).content number = (holding other).content number := by
  have files (text : Text) : (holding text).files =
      [(0, ⟨[], Store.newDirectoryMode, 0⟩), (1, ⟨text, 0o644, 0⟩)] := rfl
  simp only [Store.content, files, List.lookup_cons, beq_false_of_ne apart]

/-- Jobs that share their files leave the same after stale texts of any length, and when they run
again. -/
theorem run_overwrites_shared :
    EqualButOutput "." (twoJobs "x" "./x") (holding "stale") (holding "another stale text") ∧
      ∃ t, run "." none (twoJobs "x" "./x") (holding "stale") =
          ⟨t, .silent, .ok [⟨"./x.h", "./x.cpp"⟩, ⟨"././x.h", "././x.cpp"⟩]⟩ ∧
        run "." none (twoJobs "x" "./x") t =
          ⟨t, .silent, .ok [⟨"./x.h", "./x.cpp"⟩, ⟨"././x.h", "././x.cpp"⟩]⟩ ∧
        run "." none (twoJobs "x" "./x") (holding "another stale text") =
          ⟨t, .silent, .ok [⟨"./x.h", "./x.cpp"⟩, ⟨"././x.h", "././x.cpp"⟩]⟩ := by
  have equal : EqualButOutput "." (twoJobs "x" "./x") (holding "stale")
      (holding "another stale text") := by
    refine ⟨(by decide +kernel : (holding "stale").bare = (holding "another stale text").bare), ?_⟩
    intro number elsewhere
    refine congrArg Content.text (content_holding ?_ "stale" "another stale text")
    rintro rfl
    have leads : Store.file? ((twoJobs "x" "./x")[0].files ".").header (holding "stale") =
        some 1 := by decide +kernel
    exact elsewhere ⟨(twoJobs "x" "./x")[0], List.mem_cons_self, .inl leads⟩
  obtain ⟨again, others⟩ := run_overwrites "." (twoJobs "x" "./x") (holding "stale")
  have told : (run "." none (twoJobs "x" "./x") (holding "stale")).files.toOption =
      some [⟨"./x.h", "./x.cpp"⟩, ⟨"././x.h", "././x.cpp"⟩] := by decide +kernel
  have ran := run_eq_of_files told
  obtain ⟨-, -, silent, -⟩ := run_eq_ok_iff.1 ran
  rw [silent] at ran
  refine ⟨equal, _, ran, again _ _ _ ran, ?_⟩
  rw [← (others _ equal).2 _ (congrArg Result.files ran), ran]

end NodeClasses.Generation
