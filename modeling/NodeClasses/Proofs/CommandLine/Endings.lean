import Mathlib.Logic.ExistsUnique
import NodeClasses.Proofs.CodeUnit.OneDefinition
import NodeClasses.Proofs.CommandLine.Arguments
import NodeClasses.Proofs.Store.Layout

/-!
# How a call ends

A call of a program with a built-in table writes its two files, or is rejected for its arguments, or
stops at a file that cannot be written: `call_ends_in_one_way`. The table itself is never at fault.
Its header is the same under every output name, and its source files differ only in the line by
which they include it.
-/

namespace NodeClasses
set_option autoImplicit false

open Text LawfulDisk

/-- The texts of a table whose source files go on with the same body behind their first line. -/
def Table.texts (header body stem : Text) : CodeUnit where
  header := header
  source := "#include \"" ++ stem ++ CodeUnit.headerEnding ++ "\"\n" ++ body

/-- The table can be generated under any name, and gives these texts. -/
structure Table.CodedAs (t : Table) (header body : Text) : Prop where
  free : t.clash? = none
  code : ∀ stem, t.code stem = .ok (Table.texts header body stem)

/-- A table without clashes that can be coded under one name can be generated under any name. -/
theorem Table.exists_codedAs {t : Table} {stem : Text} {u : CodeUnit} (free : t.clash? = none)
    (coded : t.code stem = .ok u) : ∃ header body, t.CodedAs header body := by
  let below := (t.families.map Family.outline).flatMap Hierarchy.sourceLines
  refine ⟨ofLines t.headerLines, ofLines ([] :: below), free, fun other => ?_⟩
  cases again : t.code other with
  | error e =>
    have first : t.FirstMalformed e := Table.code_eq_error_iff.1 again
    have same : t.code stem = .error e := Table.code_eq_error_iff.2 first
    rw [coded] at same
    cases same
  | ok v =>
    have header : v.header = ofLines t.headerLines := Table.header_of_code again
    have source : v.source = ofLines (t.sourceLines other) := Table.source_of_code again
    have split : ofLines (t.sourceLines other) =
        "#include \"" ++ other ++ CodeUnit.headerEnding ++ "\"\n" ++ ofLines ([] :: below) := by
      simp [sourceLines, below]
    obtain ⟨_, _⟩ := v
    simp only [Table.texts, Except.ok.injEq, CodeUnit.mk.injEq]
    exact ⟨header, source.trans split⟩

/-- The built-in tables have no clash, and every entry of them is a field. -/
theorem Catalog.exists_codedAs {t : Table} (builtIn : t = Catalog.treeWalk ∨ t = Catalog.antlr) :
    ∃ header body, t.CodedAs header body := by
  have free : Catalog.treeWalk.clash? = none ∧ Catalog.antlr.clash? = none := by decide +kernel
  have coded : (Catalog.treeWalk.code []).toOption.isSome = true ∧
      (Catalog.antlr.code []).toOption.isSome = true := by decide +kernel
  rcases builtIn with rfl | rfl
  · obtain ⟨u, code⟩ := exists_ok_of_isSome coded.1
    exact Table.exists_codedAs free.1 code
  · obtain ⟨u, code⟩ := exists_ok_of_isSome coded.2
    exact Table.exists_codedAs free.2 code

namespace CommandLine

/-- The path of the header under the output name. -/
def headerPath (output : Text) : Text := output ++ CodeUnit.headerEnding

/-- The path of the source file under the output name. -/
def sourcePath (output : Text) : Text := output ++ sourceEnding

variable {σ : Type} [Disk σ]

/-- What a run of one job does whose table gives these texts. -/
theorem run_codedAs {t : Table} {header body : Text} (coded : t.CodedAs header body)
    (output : Text) (s : σ) :
    Generation.run [] none [⟨output, t⟩] s =
      match Disk.write (headerPath output) header s with
      | .error fault => ⟨s, .silent, .error (.unwritable (headerPath output) fault)⟩
      | .ok m =>
        match Disk.write (sourcePath output)
            (Table.texts header body (Path.fileName output)).source m with
        | .error fault => ⟨m, .silent, .error (.unwritable (sourcePath output) fault)⟩
        | .ok n => ⟨n, .silent, .ok [⟨headerPath output, sourcePath output⟩]⟩ := by
  have free : Generation.clash? [⟨output, t⟩] = none := by simp [Generation.clash?, coded.free]
  have code : (⟨output, t⟩ : Job).code = .ok (Table.texts header body (Path.fileName output)) :=
    coded.code _
  have files : (⟨output, t⟩ : Job).files [] = ⟨headerPath output, sourcePath output⟩ := by
    simp [Job.files, headerPath, sourcePath]
  have own : (Table.texts header body (Path.fileName output)).header = header := rfl
  simp only [Generation.run, free, Generation.writeJobs, Generation.writeJob, code, files,
    Generation.writeUnit, own]
  cases Disk.write (headerPath output) header s with
  | error fault => rfl
  | ok m =>
    dsimp only
    cases Disk.write (sourcePath output)
        (Table.texts header body (Path.fileName output)).source m with
    | error fault => rfl
    | ok n => rfl

variable [LawfulDisk σ]

/-- The two files are written, the header first, and no other file is changed. If both paths lead to
one file the source text is left in it. -/
structure Delivers (output : Text) (u : CodeUnit) (s t : σ) : Prop where
  header : ¬ SameFile t (headerPath output) (sourcePath output) →
    Holds t (headerPath output) u.header
  source : Holds t (sourcePath output) u.source
  others : ∀ file, file? (headerPath output) t ≠ some file →
    file? (sourcePath output) t ≠ some file → bytes file s = bytes file t

/-- The first write that fails is that to the path. -/
inductive FailsAt (output : Text) (u : CodeUnit) (s : σ) : Text → Fault → σ → Prop where
  /-- The header cannot be written. Nothing is changed. -/
  | header {fault : Fault} (failed : Disk.write (headerPath output) u.header s = .error fault) :
      FailsAt output u s (headerPath output) fault s
  /-- The source file cannot be written. The header is, and no other file is changed. -/
  | source {fault : Fault} {t : σ}
      (header : Disk.write (headerPath output) u.header s = .ok t)
      (failed : Disk.write (sourcePath output) u.source t = .error fault)
      (there : Holds t (headerPath output) u.header)
      (others : ∀ file, file? (headerPath output) t ≠ some file → bytes file s = bytes file t) :
      FailsAt output u s (sourcePath output) fault t

theorem delivers_of_writes {output : Text} {u : CodeUnit} {s m t : σ}
    (header : Disk.write (headerPath output) u.header s = .ok m)
    (source : Disk.write (sourcePath output) u.source m = .ok t) : Delivers output u s t := by
  have written : Disk.writeAll [(headerPath output, u.header), (sourcePath output, u.source)] s =
      .ok t := by simp [Disk.writeAll, header, source]
  have leads : SameFile t (headerPath output) (headerPath output) :=
    sameFile_of_mem written List.mem_cons_self
  have leads' : SameFile t (sourcePath output) (sourcePath output) :=
    sameFile_of_mem written (List.mem_cons_of_mem _ List.mem_cons_self)
  constructor
  case header =>
    intro apart
    refine (holds_iff_lastTo written List.mem_cons_self _).2 ?_
    exact lastTo_of_pairwise leads (by simpa using apart) List.mem_cons_self
  case source =>
    refine (holds_iff_lastTo written (List.mem_cons_of_mem _ List.mem_cons_self) _).2 ?_
    exact ⟨[(headerPath output, u.header)], sourcePath output, [], rfl, leads', by simp⟩
  case others =>
    intro file noHeader noSource
    refine (reaches_or_unchanged written file).resolve_left ?_
    rintro ⟨w, member, found⟩
    simp only [List.mem_cons, List.not_mem_nil, or_false] at member
    rcases member with rfl | rfl
    · exact noHeader found
    · exact noSource found

theorem failsAt_source {output : Text} {u : CodeUnit} {s t : σ} {fault : Fault}
    (header : Disk.write (headerPath output) u.header s = .ok t)
    (failed : Disk.write (sourcePath output) u.source t = .error fault) :
    FailsAt output u s (sourcePath output) fault t := by
  obtain ⟨target, leads, content, others⟩ := file?_write header
  refine .source header failed ⟨target, leads, content⟩ fun file apart => ?_
  refine (others file ?_).symm
  rintro rfl
  exact apart leads

/-- The ways in which a call can end. -/
inductive Ending where
  /-- Both files are written. -/
  | generated
  /-- The arguments are not one output name. -/
  | rejected
  /-- A file cannot be written. -/
  | unwritten

/-- What a call that ends in this way gives, for a program with these texts: the result of its
generation, the disk that is left, and the report. -/
def Ending.Describes (p : Program) (header body : Text) (call : List Text) (s : σ) :
    Ending → Generation.Result σ CommandError → σ × Report → Prop
  | .generated, r, ran =>
    ∃ output t, Asks call output ∧
      Delivers output (Table.texts header body (Path.fileName output)) s t ∧
      r = ⟨t, .silent, .ok [⟨headerPath output, sourcePath output⟩]⟩ ∧
      ran = (t, ⟨0, .silent⟩)
  | .rejected, r, ran =>
    (∀ output, ¬ Asks call output) ∧
      r = ⟨s, .silent, .error (.usage p.name)⟩ ∧
      ran = (s, ⟨1, ⟨[], "Usage: " ++ p.name ++ " <output>" ++ "\n"⟩⟩)
  | .unwritten, r, ran =>
    ∃ output path fault t, Asks call output ∧
      FailsAt output (Table.texts header body (Path.fileName output)) s path fault t ∧
      r = ⟨t, .silent, .error (.generation (.unwritable path fault))⟩ ∧
      ran = (t, ⟨1, ⟨[], errorMark ++ ": " ++
        ("Failed to write " ++ quoted path ++ ": " ++ fault.message) ++ "\n"⟩⟩)

/-- The ending that a result tells. -/
def Ending.told {α : Type} : Except CommandError α → Ending
  | .ok _ => .generated
  | .error (.usage _) => .rejected
  | .error (.generation _) => .unwritten

theorem Ending.Describes.eq_told {p : Program} {header body : Text} {call : List Text} {s : σ}
    {ending : Ending} {r : Generation.Result σ CommandError} {ran : σ × Report}
    (h : ending.Describes p header body call s r ran) : ending = .told r.files := by
  cases ending with
  | generated =>
    obtain ⟨_, _, -, -, rfl, -⟩ := h
    rfl
  | rejected =>
    obtain ⟨-, rfl, -⟩ := h
    rfl
  | unwritten =>
    obtain ⟨_, _, _, _, -, -, rfl, -⟩ := h
    rfl

theorem exists_ending {p : Program} {header body : Text} (coded : p.table.CodedAs header body)
    (call : List Text) (s : σ) :
    ∃ ending : Ending, ending.Describes p header body call s (generate p call none s)
      (run p call none s) := by
  unfold run
  cases asked : output? call with
  | none =>
    have rejected : generate p call none s = ⟨s, .silent, .error (.usage p.name)⟩ := by
      rw [generate, generateWith_of_none asked]
    have unasked : ∀ output, ¬ Asks call output := by
      intro output asks
      rw [output?_eq_some_iff.2 asks] at asked
      cases asked
    rw [rejected]
    exact ⟨.rejected, unasked, rfl, rfl⟩
  | some output =>
    have asks : Asks call output := output?_eq_some_iff.1 asked
    have runs : generate p call none s = runJob p.job none output s :=
      generateWith_of_some asked p.name none s
    cases first : Disk.write (headerPath output) header s with
    | error fault =>
      have result : generate p call none s =
          ⟨s, .silent, .error (.generation (.unwritable (headerPath output) fault))⟩ := by
        rw [runs]
        simp only [runJob, Program.job, run_codedAs coded, first]
        rfl
      rw [result]
      exact ⟨.unwritten, output, _, fault, s, asks, .header first, rfl, rfl⟩
    | ok m =>
      cases second : Disk.write (sourcePath output)
          (Table.texts header body (Path.fileName output)).source m with
      | error fault =>
        have result : generate p call none s =
            ⟨m, .silent, .error (.generation (.unwritable (sourcePath output) fault))⟩ := by
          rw [runs]
          simp only [runJob, Program.job, run_codedAs coded, first, second]
          rfl
        rw [result]
        exact ⟨.unwritten, output, _, fault, m, asks, failsAt_source first second, rfl, rfl⟩
      | ok t =>
        have result : generate p call none s =
            ⟨t, .silent, .ok [⟨headerPath output, sourcePath output⟩]⟩ := by
          rw [runs]
          simp only [runJob, Program.job, run_codedAs coded, first, second]
          rfl
        rw [result]
        exact ⟨.generated, output, t, asks, delivers_of_writes first second, rfl, rfl⟩

/-- **A call ends in one way.** A program with a built-in table has one header and one body of
source files. Whatever its arguments and whatever the disk, exactly one ending describes what a call
without a tool gives. -/
theorem call_ends_in_one_way {p : Program}
    (builtIn : p.table = Catalog.treeWalk ∨ p.table = Catalog.antlr) :
    ∃ header body, p.table.CodedAs header body ∧
      ∀ (σ : Type) [Disk σ] [LawfulDisk σ] (call : List Text) (s : σ),
        ∃! ending : Ending, ending.Describes p header body call s (generate p call none s)
          (run p call none s) := by
  obtain ⟨header, body, coded⟩ := Catalog.exists_codedAs builtIn
  refine ⟨header, body, coded, fun σ _ _ call s => ?_⟩
  obtain ⟨ending, described⟩ := exists_ending coded call s
  exact ⟨ending, described, fun other also => also.eq_told.trans described.eq_told.symm⟩

/-- Whether the files of a call can be written does not depend on their texts. -/
theorem not_failsAt [LaidOut σ] {output : Text} {u : CodeUnit} {s t n : σ} {path : Text}
    {fault : Fault}
    (writable : Disk.writeAll [(headerPath output, []), (sourcePath output, [])] s = .ok n) :
    ¬ FailsAt output u s path fault t := by
  obtain ⟨m, first, rest⟩ := Disk.writeAll_cons_eq_ok.1 writable
  obtain ⟨n', second, -⟩ := Disk.writeAll_cons_eq_ok.1 rest
  intro fails
  cases fails with
  | header failed =>
    have same := LaidOut.write_error_of_layout rfl failed []
    rw [first] at same
    cases same
  | source header failed =>
    obtain ⟨m', first', layouts⟩ := LaidOut.exists_write_of_layout rfl header []
    obtain rfl := Except.ok.inj (first.symm.trans first')
    have same := LaidOut.write_error_of_layout layouts failed []
    rw [second] at same
    cases same

/-- Behind two dashes an output name may look like an option. -/
theorem call_ends_in_one_way_dashed :
    ∃ header body t, Catalog.antlr.CodedAs header body ∧
      Delivers "-x" (Table.texts header body "-x") (Store.empty []) t ∧
      run Program.antlr ["astgen-antlr", "--", "-x"] none (Store.empty []) = (t, ⟨0, .silent⟩) := by
  obtain ⟨header, body, coded, ends⟩ := call_ends_in_one_way (p := Program.antlr) (.inr rfl)
  obtain ⟨ending, described, -⟩ := ends Store ["astgen-antlr", "--", "-x"] (Store.empty [])
  have asked : output? ["astgen-antlr", "--", "-x"] = some ("-x" : Text) := by decide +kernel
  cases ending with
  | generated =>
    obtain ⟨output, t, asks, delivers, -, ran⟩ := described
    obtain rfl := Option.some.inj (asked.symm.trans (output?_eq_some_iff.2 asks))
    have name : Path.fileName "-x" = ("-x" : Text) := by decide +kernel
    rw [name] at delivers
    exact ⟨header, body, t, coded, delivers, ran⟩
  | rejected => exact absurd (output?_eq_some_iff.1 asked) (described.1 "-x")
  | unwritten =>
    obtain ⟨output, path, fault, t, asks, fails, -⟩ := described
    obtain rfl := Option.some.inj (asked.symm.trans (output?_eq_some_iff.2 asks))
    have writable : (Disk.writeAll [(headerPath "-x", []), (sourcePath "-x", [])]
        (Store.empty [])).toOption.isSome = true := by decide +kernel
    obtain ⟨n, wrote⟩ := exists_ok_of_isSome writable
    exact absurd fails (not_failsAt wrote)

end CommandLine

end NodeClasses
