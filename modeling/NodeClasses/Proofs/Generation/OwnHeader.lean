import Mathlib.Data.List.Infix
import NodeClasses.Proofs.CodeUnit.Recovery
import NodeClasses.Proofs.Generation.Output
import NodeClasses.Proofs.Store.LastSegment
import NodeClasses.Proofs.Text.Delimited

/-!
# A source file and its header

The first line of a source file includes a header. The paths of the two files are the base name
with an ending, while the header is included by the file name of the base name, so it is the header
beside the source file only for some base names: `run_includesOwnHeader_iff`.
-/

namespace NodeClasses
set_option autoImplicit false

open Text

namespace CodeUnit

/-- The text in front of the next quotation mark, if that is on the same line. -/
def quotedTarget? : Text → Option Text
  | [] => none
  | c :: rest =>
    if c = '"' then some []
    else if c = '\n' then none
    else (quotedTarget? rest).map (c :: ·)

/-- What the first line of a source file includes. -/
def includedFile? (source : Text) : Option Text :=
  (List.isPrefixOf? ("#include \"" : Text) source).bind quotedTarget?

theorem quotedTarget?_eq_some_iff {text target : Text} :
    quotedTarget? text = some target ↔
      '"' ∉ target ∧ '\n' ∉ target ∧ target ++ ['"'] <+: text := by
  induction text generalizing target with
  | nil => simp [quotedTarget?]
  | cons c rest ih =>
    cases target with
    | nil =>
      have first : quotedTarget? (c :: rest) = some [] ↔ c = '"' := by
        rw [quotedTarget?]
        split
        · next quote => simp [quote]
        · next other => split <;> simp [other]
      simp [first, eq_comm]
    | cons d target =>
      have goesOn : quotedTarget? (c :: rest) = some (d :: target) ↔
          c ≠ '"' ∧ c ≠ '\n' ∧ c = d ∧ quotedTarget? rest = some target := by
        rw [quotedTarget?]
        split
        · next quote => simp [quote]
        · next other =>
          split
          · next ends => simp [ends]
          · next inside => simp [other, inside, and_comm]
      rw [goesOn, ih, List.cons_append, List.cons_prefix_cons, List.mem_cons, List.mem_cons, not_or,
        not_or]
      constructor
      · rintro ⟨quote, ends, rfl, bare, unbroken, before⟩
        exact ⟨⟨Ne.symm quote, bare⟩, ⟨Ne.symm ends, unbroken⟩, rfl, before⟩
      · rintro ⟨⟨quote, bare⟩, ⟨ends, unbroken⟩, rfl, before⟩
        exact ⟨Ne.symm quote, Ne.symm ends, rfl, bare, unbroken, before⟩

/-- Behind the opening of an include, the target is what stands before the first quotation mark. -/
theorem includedFile?_eq_some_iff {text target : Text} :
    includedFile? ("#include \"" ++ text) = some target ↔
      '"' ∉ target ∧ '\n' ∉ target ∧ target ++ ['"'] <+: text := by
  have cut : List.isPrefixOf? ("#include \"" : Text) ("#include \"" ++ text) = some text :=
    List.isPrefixOf?_eq_some_iff_append_eq.2 rfl
  rw [includedFile?, cut, Option.bind_some, quotedTarget?_eq_some_iff]

example : includedFile? "#include \"ast.h\"\n\n" = some ("ast.h" : Text) := by decide +kernel

end CodeUnit

/-- A base name by which the source file includes the header beside it. -/
structure Path.IsPlainBase (base : Text) : Prop where
  unquoted : '"' ∉ lastSegment base
  unbroken : '\n' ∉ lastSegment base
  /-- The file name is the last segment, or a quotation mark cuts it short to that. -/
  name : EndsPlainly base ∨ (lastSegment base ++ ".h\"" : Text) <+: fileName base

theorem Table.exists_source_of_code {t : Table} {stem : Text} {u : CodeUnit}
    (coded : t.code stem = .ok u) :
    ∃ rest, u.source = "#include \"" ++ (stem ++ (CodeUnit.headerEnding ++ '"' :: rest)) := by
  rw [eq_of_code coded]
  exact ⟨_, by simp [CodeUnit.appendAll, CodeUnit.start]; rfl⟩

namespace Job

theorem lastSegment_header (dir : Text) (j : Job) :
    Path.lastSegment (j.files dir).header =
      Path.lastSegment j.baseName ++ CodeUnit.headerEnding := by
  have flat : '/' ∉ CodeUnit.headerEnding := by simp [CodeUnit.headerEnding]
  rw [files, Path.lastSegment_join, Path.lastSegment_append flat]

theorem folder_files (dir : Text) (j : Job) :
    Path.folder (j.files dir).header = Path.folder (j.files dir).source := by
  have header : '/' ∉ CodeUnit.headerEnding := by simp [CodeUnit.headerEnding]
  have source : '/' ∉ sourceEnding := by simp [sourceEnding]
  simp only [files, Path.join_append header, Path.join_append source, Path.folder_append header,
    Path.folder_append source]

/-- The source file of a job includes the last segment of its header's path exactly if the base name
is plain. -/
theorem includedFile?_source_iff {dir : Text} {j : Job} {u : CodeUnit} (coded : j.code = .ok u) :
    CodeUnit.includedFile? u.source = some (Path.lastSegment (j.files dir).header) ↔
      Path.IsPlainBase j.baseName := by
  obtain ⟨rest, source⟩ := Table.exists_source_of_code coded
  rw [source, CodeUnit.includedFile?_eq_some_iff, lastSegment_header]
  have same : Path.lastSegment j.baseName ++ CodeUnit.headerEnding = j.stem ++ CodeUnit.headerEnding
      ↔ Path.EndsPlainly j.baseName := by
    rw [List.append_left_inj, eq_comm, stem, Path.fileName_eq_lastSegment_iff]
  have ending : '"' ∉ CodeUnit.headerEnding ∧ '\n' ∉ CodeUnit.headerEnding := by
    simp [CodeUnit.headerEnding]
  have marked : Path.lastSegment j.baseName ++ CodeUnit.headerEnding ++ ['"'] =
      (Path.lastSegment j.baseName ++ ".h\"" : Text) := by simp [CodeUnit.headerEnding]
  have name (unquoted : '"' ∉ Path.lastSegment j.baseName) :
      Path.lastSegment j.baseName ++ CodeUnit.headerEnding ++ ['"'] <+:
          j.stem ++ (CodeUnit.headerEnding ++ '"' :: rest) ↔
        Path.EndsPlainly j.baseName ∨
          (Path.lastSegment j.baseName ++ ".h\"" : Text) <+: Path.fileName j.baseName := by
    rw [isPrefix_ended_iff (by simp [unquoted, ending.1]) ending.1, same, marked, stem]
  rw [List.mem_append, List.mem_append, or_iff_left ending.1, or_iff_left ending.2]
  constructor
  · rintro ⟨unquoted, unbroken, before⟩
    exact ⟨unquoted, unbroken, (name unquoted).1 before⟩
  · rintro ⟨unquoted, unbroken, plain⟩
    exact ⟨unquoted, unbroken, (name unquoted).2 plain⟩

end Job

namespace Generation

variable {σ : Type} [Disk σ]

/-- A tool has no say in which files a run tells of. -/
theorem files_run (dir : Text) (tool : Option (Tool.On σ)) (jobs : List Job) (s : σ) :
    (run dir tool jobs s).files = (run dir none jobs s).files := by
  cases tool with
  | none => rfl
  | some tool =>
    rcases clash : clash? jobs with _ | e
    · rcases wrote : writeJobs dir jobs s with ⟨t, e | pairs⟩ <;> simp [run, clash, wrote]
    · simp [run, clash]

/-- **A source file includes the header beside it** exactly if the base name is plain. A finished
run has written both files of each job, into one folder, whatever a tool made of them later. -/
theorem run_includesOwnHeader_iff {dir : Text} {tool : Option (Tool.On σ)} {jobs : List Job}
    {s t : σ} {printed : Streams} {pairs : List FilePair}
    (finished : run dir tool jobs s = ⟨t, printed, .ok pairs⟩) :
    pairs = jobs.map (Job.files dir) ∧ (∃ m, Disk.writeAll (runLog dir jobs) s = .ok m) ∧
      ∀ j ∈ jobs, ∃ u, j.code = .ok u ∧
        ((j.files dir).header, u.header) ∈ runLog dir jobs ∧
        ((j.files dir).source, u.source) ∈ runLog dir jobs ∧
        Path.folder (j.files dir).header = Path.folder (j.files dir).source ∧
        (CodeUnit.includedFile? u.source = some (Path.lastSegment (j.files dir).header) ↔
          Path.IsPlainBase j.baseName) := by
  have files : (run dir none jobs s).files.toOption = some pairs := by
    rw [← files_run dir tool, finished]
    rfl
  obtain ⟨written, rfl⟩ := run_eq_ok (run_eq_of_files files)
  obtain ⟨wrote, coded⟩ := written.writeAll
  refine ⟨rfl, ⟨_, wrote⟩, fun j member => ?_⟩
  obtain ⟨u, code⟩ := coded j member
  obtain ⟨header, source⟩ := mem_runLog dir member code
  exact ⟨u, code, header, source, j.folder_files dir, Job.includedFile?_source_iff code⟩

/-- Runs two jobs in a store with a directory `a`. -/
def runBeside (first second : Text) : Result Store GenerationError :=
  run "." none (twoJobs first second) ((Store.empty []).put [("a" : Text)] .directory)

/-- Dots in a base name are kept in both names. -/
theorem run_includesOwnHeader_iff_dotted :
    ∃ u, (twoJobs "a/ast.gen" "b")[0].code = .ok u ∧
      CodeUnit.includedFile? u.source = some (Path.lastSegment "./a/ast.gen.h") := by
  have files : (runBeside "a/ast.gen" "b").files.toOption =
      some [⟨"./a/ast.gen.h", "./a/ast.gen.cpp"⟩, ⟨"./b.h", "./b.cpp"⟩] := by decide +kernel
  have plain : Path.IsPlainBase "a/ast.gen" := by
    refine ⟨by decide +kernel, by decide +kernel, .inl ⟨by decide +kernel, by decide +kernel, ?_⟩⟩
    exact fun empty => absurd empty (by decide +kernel)
  obtain ⟨-, -, includes⟩ := run_includesOwnHeader_iff (run_eq_of_files files)
  obtain ⟨u, code, -, -, -, own⟩ := includes (twoJobs "a/ast.gen" "b")[0] List.mem_cons_self
  have header : ((twoJobs "a/ast.gen" "b")[0].files ".").header = "./a/ast.gen.h" := by
    decide +kernel
  rw [header] at own
  exact ⟨u, code, own.2 plain⟩

/-- A source file may include another name than that of its header: behind a slash at the end of a
base name, the header has no name but its ending. -/
theorem not_run_includesOwnHeader :
    ¬ ∀ (dir : Text) (jobs : List Job) (s t : Store) (printed : Streams) (pairs : List FilePair),
      run dir none jobs s = ⟨t, printed, .ok pairs⟩ →
        ∀ (i : Nat) (j : Job) (files : FilePair) (u : CodeUnit), jobs[i]? = some j →
          pairs[i]? = some files → j.code = .ok u →
            CodeUnit.includedFile? u.source = some (Path.lastSegment files.header) := by
  intro includes
  have files : (runBeside "a/" "b").files.toOption =
      some [⟨"./a/.h", "./a/.cpp"⟩, ⟨"./b.h", "./b.cpp"⟩] := by decide +kernel
  obtain ⟨u, code⟩ : ∃ u, (twoJobs "a/" "b")[0].code = .ok u := ⟨_, rfl⟩
  have included := includes _ _ _ _ _ _ (run_eq_of_files files) 0 _ _ u rfl rfl code
  have other : (twoJobs "a/" "b")[0].code.toOption.bind (fun u => CodeUnit.includedFile? u.source) ≠
      some (Path.lastSegment "./a/.h") := by decide +kernel
  rw [code] at other
  exact other included

end Generation

end NodeClasses
