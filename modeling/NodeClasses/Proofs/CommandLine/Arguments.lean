import Mathlib.Logic.ExistsUnique
import NodeClasses.CommandLine

/-!
# Arguments of a call

Arguments are read one after the other, as many as there are. `positionals_eq_some_iff` tells what
the reading comes to: two dashes end the options, no option may stand before them, and all other
arguments are positional. A call asks for the files of exactly one output name, so few lists are
accepted: `generateWith_asks_one_name`.
-/

namespace NodeClasses.CommandLine
set_option autoImplicit false

/-- How arguments are read: those that are given, and the positional ones among them. -/
inductive Reads : List Text → List Text → Prop where
  /-- Nothing ends the options, and there are none. -/
  | plain {arguments : List Text} (free : ∀ a ∈ arguments, isOption a = false) :
      Reads arguments arguments
  /-- Two dashes end the options. There are none before them, and what comes after is none. -/
  | ended (before after : List Text) (free : ∀ a ∈ before, isOption a = false) :
      Reads (before ++ optionsEnd :: after) (before ++ after)

theorem isOption_optionsEnd : isOption optionsEnd = true := by decide +kernel

theorem ne_optionsEnd {a : Text} (noOption : isOption a = false) : a ≠ optionsEnd := by
  rintro rfl
  rw [isOption_optionsEnd] at noOption
  cases noOption

/-- Arguments in front that are no options are positional. -/
theorem positionals_append {before : List Text} (free : ∀ a ∈ before, isOption a = false)
    (rest : List Text) :
    positionals (before ++ rest) = (positionals rest).map (before ++ ·) := by
  induction before with
  | nil => simp
  | cons a before ih =>
    obtain ⟨noOption, others⟩ := List.forall_mem_cons.1 free
    have option : ¬ isOption a = true := Bool.eq_false_iff.1 noOption
    rw [List.cons_append, positionals, if_neg (ne_optionsEnd noOption), if_neg option, ih others,
      Option.map_map]
    rfl

theorem Reads.cons {a : Text} {arguments found : List Text} (noOption : isOption a = false)
    (reads : Reads arguments found) : Reads (a :: arguments) (a :: found) := by
  cases reads with
  | plain free => exact .plain (List.forall_mem_cons.2 ⟨noOption, free⟩)
  | ended before after free =>
    exact .ended (a :: before) after (List.forall_mem_cons.2 ⟨noOption, free⟩)

/-- The reading of arguments, whatever their number. -/
theorem positionals_eq_some_iff {arguments found : List Text} :
    positionals arguments = some found ↔ Reads arguments found := by
  constructor
  · intro read
    -- One argument is read after the other, up to the dashes that end the options.
    induction arguments generalizing found with
    | nil =>
      obtain rfl := Option.some.inj read
      exact .plain (by simp)
    | cons a rest ih =>
      rw [positionals] at read
      by_cases ends : a = optionsEnd
      · rw [if_pos ends] at read
        obtain rfl := Option.some.inj read
        rw [ends]
        exact .ended [] rest (by simp)
      by_cases option : isOption a = true
      · rw [if_neg ends, if_pos option] at read
        cases read
      · rw [if_neg ends, if_neg option, Option.map_eq_some_iff] at read
        obtain ⟨others, further, rfl⟩ := read
        exact (ih further).cons (Bool.eq_false_iff.2 option)
  · intro reads
    cases reads with
    | plain free =>
      have all := positionals_append free []
      simpa [positionals] using all
    | ended before after free =>
      rw [positionals_append free, positionals, if_pos rfl]
      rfl

/-- The arguments are one output name. It is no option, or two dashes stand before it. -/
def Asks (call : List Text) (output : Text) : Prop :=
  call.tail = [optionsEnd, output] ∨
    isOption output = false ∧ (call.tail = [output] ∨ call.tail = [output, optionsEnd])

theorem reads_singleton_iff {arguments : List Text} {output : Text} :
    Reads arguments [output] ↔
      arguments = [optionsEnd, output] ∨
        isOption output = false ∧ (arguments = [output] ∨ arguments = [output, optionsEnd]) := by
  constructor
  · intro reads
    generalize named : [output] = found at reads
    cases reads with
    | plain free =>
      subst named
      exact .inr ⟨free output (by simp), .inl rfl⟩
    | ended before after free =>
      -- The name is on one of the two sides of the dashes, and nothing is on the other.
      rcases List.singleton_eq_append_iff.1 named with ⟨rfl, rfl⟩ | ⟨rfl, rfl⟩
      · exact .inl rfl
      · exact .inr ⟨free output (by simp), .inr rfl⟩
  · rintro (rfl | ⟨noOption, rfl | rfl⟩)
    · exact .ended [] [output] (by simp)
    · exact .plain (by simpa using noOption)
    · exact .ended [output] [] (by simpa using noOption)

theorem output?_eq_some_iff {call : List Text} {output : Text} :
    output? call = some output ↔ Asks call output := by
  have one : output? call = some output ↔ positionals call.tail = some [output] := by
    unfold output?
    split
    · next other only => simp [only]
    · next several => exact iff_of_false (by simp) (several output)
  rw [one, positionals_eq_some_iff, reads_singleton_iff, Asks]

/-- A call asks for one name at most. -/
theorem Asks.unique {call : List Text} {output other : Text} (asks : Asks call output)
    (also : Asks call other) : output = other :=
  Option.some.inj ((output?_eq_some_iff.2 asks).symm.trans (output?_eq_some_iff.2 also))

example : output? ["astgen", "-", "--"] = some ("-" : Text) := by decide +kernel

theorem output?_eq_none_iff {call : List Text} :
    output? call = none ↔ ∀ output, ¬ Asks call output := by
  rw [Option.eq_none_iff_forall_ne_some]
  exact forall_congr' fun output => not_congr output?_eq_some_iff

section

variable {σ : Type} [Disk σ]

/-- Once a job is asked for, the arguments are not at fault any more. -/
theorem files_runJob_ne_usage (build : JobBuilder) (tool : Option (Tool.On σ)) (output : Text)
    (s : σ) (program : Text) : (runJob build tool output s).files ≠ .error (.usage program) := by
  intro fault
  unfold runJob at fault
  cases made : build output with
  | error e =>
    rw [made] at fault
    cases fault
  | ok job =>
    rw [made] at fault
    dsimp only at fault
    cases ran : (Generation.run [] tool [job] s).files with
    | error e =>
      rw [ran] at fault
      cases fault
    | ok pairs =>
      rw [ran] at fault
      cases fault

/-- A call that asks for a name ends in the refusal of its job, or as the run of that job ends. -/
theorem generateWith_of_asks {call : List Text} {output : Text} (asks : Asks call output)
    (name : Text) (build : JobBuilder) (tool : Option (Tool.On σ)) (s : σ) :
    (∀ e, build output = .error e →
        generateWith name build call tool s = ⟨s, .silent, .error (.generation (.schema e))⟩) ∧
      ∀ job, build output = .ok job →
        generateWith name build call tool s =
          let ran := Generation.run [] tool [job] s
          ⟨ran.store, ran.printed, ran.files.mapError .generation⟩ := by
  have runs : generateWith name build call tool s = runJob build tool output s :=
    generateWith_of_some (output?_eq_some_iff.2 asks) name tool s
  constructor
  · intro e refused
    rw [runs, runJob, refused]
  · intro job made
    rw [runs, runJob, made]

/-- **A call takes exactly one name.** Its arguments are accepted if they ask for one output name.
The job is made for exactly that name: the call ends in its refusal, or it ends as the run of that
job in the working directory, which for a program is its table under that name. All other calls
are rejected and leave the disk alone. -/
theorem generateWith_asks_one_name (name : Text) (build : JobBuilder) (call : List Text)
    (tool : Option (Tool.On σ)) (s : σ) :
    ((∀ program, (generateWith name build call tool s).files ≠ .error (.usage program)) ↔
        ∃! output, Asks call output) ∧
      (∀ output, Asks call output →
        (∀ e, build output = .error e →
          generateWith name build call tool s = ⟨s, .silent, .error (.generation (.schema e))⟩) ∧
        (∀ job, build output = .ok job →
          generateWith name build call tool s =
            let ran := Generation.run [] tool [job] s
            ⟨ran.store, ran.printed, ran.files.mapError .generation⟩) ∧
        ∀ p : Program, ∃ job, p.job output = .ok job ∧ job.baseName = output ∧
          job.table = p.table ∧
          generate p call tool s =
            let ran := Generation.run [] tool [job] s
            ⟨ran.store, ran.printed, ran.files.mapError .generation⟩) ∧
      ((∀ output, ¬ Asks call output) →
        generateWith name build call tool s = ⟨s, .silent, .error (.usage name)⟩) := by
  refine ⟨?_, ?_, ?_⟩
  · constructor
    · intro passed
      cases asked : output? call with
      | none => exact absurd (by rw [generateWith_of_none asked]) (passed name)
      | some output =>
        exact ⟨output, output?_eq_some_iff.1 asked, fun other asks =>
          asks.unique (output?_eq_some_iff.1 asked)⟩
    · rintro ⟨output, asks, -⟩ program
      rw [generateWith_of_some (output?_eq_some_iff.2 asks)]
      exact files_runJob_ne_usage build tool output s program
  · intro output asks
    obtain ⟨refused, ran⟩ := generateWith_of_asks asks name build tool s
    refine ⟨refused, ran, fun p => ⟨⟨output, p.table⟩, rfl, rfl, rfl, ?_⟩⟩
    exact (generateWith_of_asks asks p.name p.job tool s).2 ⟨output, p.table⟩ rfl
  · intro unasked
    exact generateWith_of_none (output?_eq_none_iff.2 unasked) name build tool s

end

/-- Refuses every name, and tells which. -/
def refusal : JobBuilder := fun output => .error (.emptyFamily output)

/-- The empty name can be asked for: a builder sees it, and it is the base name of a program's job,
whose files are then all ending. A second dash alone is one name too many. -/
theorem generateWith_asks_one_name_bare :
    generateWith "astgen" refusal ["astgen", ""] none (Store.empty []) =
        ⟨Store.empty [], .silent, .error (.generation (.schema (.emptyFamily "")))⟩ ∧
      (generate .treeWalk ["astgen", ""] none (Store.empty []) =
        let ran := Generation.run [] none [⟨"", Catalog.treeWalk⟩] (Store.empty [])
        ⟨ran.store, ran.printed, ran.files.mapError .generation⟩) ∧
      (generate .treeWalk ["astgen", ""] none (Store.empty [])).files.toOption =
        some [⟨".h", ".cpp"⟩] ∧
      generateWith "astgen" Program.treeWalk.job ["astgen", "-", "-"] none (Store.empty []) =
        ⟨Store.empty [], .silent, .error (.usage "astgen")⟩ := by
  have one : output? ["astgen", ""] = some ("" : Text) := by decide +kernel
  have two : output? ["astgen", "-", "-"] = none := by decide +kernel
  obtain ⟨-, accepted, -⟩ := generateWith_asks_one_name "astgen" refusal ["astgen", ""] none
    (Store.empty [])
  obtain ⟨refused, -, programs⟩ := accepted "" (output?_eq_some_iff.1 one)
  obtain ⟨⟨base, table⟩, -, rfl, rfl, ran⟩ := programs .treeWalk
  obtain ⟨-, -, rejected⟩ := generateWith_asks_one_name "astgen" Program.treeWalk.job
    ["astgen", "-", "-"] none (Store.empty [])
  exact ⟨refused (.emptyFamily "") rfl, ran, by decide +kernel,
    rejected (output?_eq_none_iff.1 two)⟩

end NodeClasses.CommandLine
