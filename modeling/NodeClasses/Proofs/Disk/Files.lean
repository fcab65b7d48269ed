import NodeClasses.Disk

/-!
# Files on a disk

On a lawful disk paths lead to files, several of them perhaps to one, and a write changes the file
that its path leads to and no other. After a log of writes a file holds the text of the last write
to it: `holds_iff_lastTo`. Which paths lead to one file is asked when all is written.
-/

namespace NodeClasses
set_option autoImplicit false

open Text

/-- A disk on which a write changes exactly the file that its path leads to, which may be new. -/
class LawfulDisk (σ : Type) [Disk σ] where
  /-- The files, told apart whatever paths lead to them. -/
  File : Type
  /-- The file that a path leads to. -/
  file? : Text → σ → Option File
  /-- What a file holds, in byte form. -/
  bytes : File → σ → Text
  file?_write {path text : Text} {s t : σ} (written : Disk.write path text s = .ok t) :
    ∃ file, file? path t = some file ∧ bytes file t = encode text ∧
      ∀ other, other ≠ file → bytes other t = bytes other s
  /-- A way to a file stays one. -/
  file?_kept {path text way : Text} {s t : σ} {file : File}
    (written : Disk.write path text s = .ok t) (leads : file? way s = some file) :
    file? way t = some file

namespace Disk

variable {σ : Type} [Disk σ]

/-- Writes texts at paths, one after the other, up to the first fault. -/
def writeAll : List (Text × Text) → σ → Except Fault σ
  | [], s => .ok s
  | (path, text) :: log, s =>
    match Disk.write path text s with
    | .error fault => .error fault
    | .ok t => writeAll log t

theorem writeAll_cons_eq_ok {path text : Text} {log : List (Text × Text)} {s t : σ} :
    writeAll ((path, text) :: log) s = .ok t ↔
      ∃ m, Disk.write path text s = .ok m ∧ writeAll log m = .ok t := by
  cases h : Disk.write path text s <;> simp [writeAll, h]

theorem writeAll_append_eq_ok {log log' : List (Text × Text)} {s t : σ} :
    writeAll (log ++ log') s = .ok t ↔ ∃ m, writeAll log s = .ok m ∧ writeAll log' m = .ok t := by
  induction log generalizing s with
  | nil => simp [writeAll]
  | cons w log ih =>
    obtain ⟨path, text⟩ := w
    simp only [List.cons_append, writeAll_cons_eq_ok, ih]
    constructor
    · rintro ⟨m, first, n, rest, last⟩
      exact ⟨n, ⟨m, first, rest⟩, last⟩
    · rintro ⟨n, ⟨m, first, rest⟩, last⟩
      exact ⟨m, first, n, rest, last⟩

end Disk

namespace LawfulDisk

variable {σ : Type} [Disk σ] [LawfulDisk σ]

/-- The path leads to a file that holds exactly the text. -/
def Holds (s : σ) (path text : Text) : Prop :=
  ∃ file, file? path s = some file ∧ bytes file s = encode text

/-- The paths lead to one file. -/
def SameFile (s : σ) (path way : Text) : Prop :=
  ∃ file, file? path s = some file ∧ file? way s = some file

/-- The last write of the log to the file at the path carries the text. -/
def LastTo (s : σ) (path : Text) (log : List (Text × Text)) (text : Text) : Prop :=
  ∃ before way after, log = before ++ (way, text) :: after ∧ SameFile s path way ∧
    ∀ w ∈ after, ¬ SameFile s path w.1

theorem lastTo_cons {s : σ} {path way text x : Text} {log : List (Text × Text)} :
    LastTo s path ((way, text) :: log) x ↔
      LastTo s path log x ∨
        (SameFile s path way ∧ text = x ∧ ∀ w ∈ log, ¬ SameFile s path w.1) := by
  constructor
  · rintro ⟨before, way', after, split, same, later⟩
    rcases List.cons_eq_append_iff.1 split with ⟨rfl, here⟩ | ⟨before, rfl, rest⟩
    · simp only [List.cons.injEq, Prod.mk.injEq] at here
      obtain ⟨⟨rfl, rfl⟩, rfl⟩ := here
      exact .inr ⟨same, rfl, later⟩
    · exact .inl ⟨before, way', after, rest, same, later⟩
  · rintro (⟨before, way', after, rfl, same, later⟩ | ⟨same, rfl, later⟩)
    · exact ⟨(way, text) :: before, way', after, rfl, same, later⟩
    · exact ⟨[], way, log, rfl, same, later⟩

theorem LastTo.sameFile {s : σ} {path x : Text} {log : List (Text × Text)}
    (h : LastTo s path log x) : ∃ w ∈ log, SameFile s path w.1 := by
  obtain ⟨before, way, after, rfl, same, -⟩ := h
  exact ⟨(way, x), by simp, same⟩

/-- There is a last write to a file exactly if there is a write to it. -/
theorem exists_lastTo_iff {s : σ} {path : Text} {log : List (Text × Text)} :
    (∃ text, LastTo s path log text) ↔ ∃ w ∈ log, SameFile s path w.1 := by
  constructor
  · rintro ⟨text, last⟩
    exact last.sameFile
  · intro written
    induction log with
    | nil => simp at written
    | cons w log ih =>
      by_cases later : ∃ w' ∈ log, SameFile s path w'.1
      · obtain ⟨text, last⟩ := ih later
        exact ⟨text, lastTo_cons.2 (.inl last)⟩
      · -- The write in front is the last one, as no other one is to the file.
        obtain ⟨w', member, same⟩ := written
        rcases List.mem_cons.1 member with rfl | member
        · refine ⟨w'.2, lastTo_cons.2 (.inr ⟨same, rfl, ?_⟩)⟩
          exact fun v inside also => later ⟨v, inside, also⟩
        · exact absurd ⟨w', member, same⟩ later

/-- Writes before another one to the same file do not count. -/
theorem lastTo_append {s : σ} {path x : Text} {log : List (Text × Text)}
    (later : ∃ w ∈ log, SameFile s path w.1) (before : List (Text × Text)) :
    LastTo s path (before ++ log) x ↔ LastTo s path log x := by
  induction before with
  | nil => rfl
  | cons w before ih =>
    rw [List.cons_append, lastTo_cons, ih]
    refine or_iff_left ?_
    rintro ⟨-, -, unwritten⟩
    obtain ⟨w', member, same⟩ := later
    exact unwritten w' (List.mem_append_right before member) same

/-- If its files are all different, the last write to a path of a log is the write at that path. -/
theorem lastTo_of_pairwise {s : σ} {log : List (Text × Text)} {path text : Text}
    (leads : SameFile s path path) (apart : log.Pairwise fun v w => ¬ SameFile s v.1 w.1)
    (member : (path, text) ∈ log) : LastTo s path log text := by
  obtain ⟨before, after, rfl⟩ := List.append_of_mem member
  obtain ⟨-, apart, -⟩ := List.pairwise_append.1 apart
  exact ⟨before, path, after, rfl, leads, (List.pairwise_cons.1 apart).1⟩

theorem file?_writeAll {log : List (Text × Text)} {s t : σ} {way : Text} {file : File σ}
    (written : Disk.writeAll log s = .ok t) (leads : file? way s = some file) :
    file? way t = some file := by
  induction log generalizing s with
  | nil => cases written; exact leads
  | cons w log ih =>
    obtain ⟨m, first, rest⟩ := Disk.writeAll_cons_eq_ok.1 written
    exact ih rest (file?_kept first leads)

/-- A file that holds a text holds the text of the last write to it after a log. The text that it
holds at first counts as if it were written. -/
theorem holds_writeAll {log : List (Text × Text)} {s t : σ} {path text : Text} {file : File σ}
    (written : Disk.writeAll log s = .ok t) (leads : file? path s = some file)
    (content : bytes file s = encode text) (x : Text) :
    Holds t path x ↔ LastTo t path ((path, text) :: log) x := by
  induction log generalizing s text with
  | nil =>
    obtain rfl := Except.ok.inj written
    have same : SameFile s path path := ⟨file, leads, leads⟩
    constructor
    · rintro ⟨file', leads', content'⟩
      obtain rfl := Option.some.inj (leads.symm.trans leads')
      exact ⟨[], path, [], by rw [encode_inj.1 (content'.symm.trans content)]; rfl, same, by simp⟩
    · intro last
      obtain later | ⟨-, rfl, -⟩ := lastTo_cons.1 last
      · obtain ⟨w, member, -⟩ := later.sameFile
        simp at member
      · exact ⟨file, leads, content⟩
  | cons w log ih =>
    -- The first write is to the file, and its text counts from then on, or it is to another one.
    obtain ⟨way, new⟩ := w
    obtain ⟨m, first, rest⟩ := Disk.writeAll_cons_eq_ok.1 written
    obtain ⟨target, leadsTarget, newContent, others⟩ := file?_write first
    have leads' := file?_kept first leads
    have ends : file? path t = some file := file?_writeAll rest leads'
    have endsTarget : file? way t = some target := file?_writeAll rest leadsTarget
    have path_path : SameFile t path path := ⟨file, ends, ends⟩
    by_cases same : file = target
    · subst same
      have way_path : SameFile t path way := ⟨file, ends, endsTarget⟩
      rw [ih rest leads' newContent, @lastTo_cons σ _ _ t path path text]
      constructor
      · intro last
        refine .inl (lastTo_cons.2 ?_)
        exact (lastTo_cons.1 last).imp_right fun ⟨_, found, later⟩ => ⟨way_path, found, later⟩
      · rintro (last | ⟨-, -, later⟩)
        · refine lastTo_cons.2 ?_
          exact (lastTo_cons.1 last).imp_right fun ⟨_, found, later⟩ => ⟨path_path, found, later⟩
        · exact absurd way_path (later (way, new) (by simp))
    · have apart : ¬ SameFile t path way := by
        rintro ⟨file', leadsPath, leadsWay⟩
        obtain rfl := Option.some.inj (ends.symm.trans leadsPath)
        exact same (Option.some.inj (leadsWay.symm.trans endsTarget))
      rw [ih rest leads' ((others file same).trans content), lastTo_cons, lastTo_cons, lastTo_cons]
      simp [apart]

/-- A log seen from one of its writes: what the write leaves, and the writes behind it. -/
theorem exists_of_mem {log : List (Text × Text)} {s t : σ} {path text : Text}
    (written : Disk.writeAll log s = .ok t) (member : (path, text) ∈ log) :
    ∃ before after m file, log = before ++ (path, text) :: after ∧ file? path m = some file ∧
      bytes file m = encode text ∧ Disk.writeAll after m = .ok t := by
  obtain ⟨before, after, rfl⟩ := List.append_of_mem member
  obtain ⟨m, -, rest⟩ := Disk.writeAll_append_eq_ok.1 written
  obtain ⟨m', first, last⟩ := Disk.writeAll_cons_eq_ok.1 rest
  obtain ⟨file, leads, content, -⟩ := file?_write first
  exact ⟨before, after, m', file, rfl, leads, content, last⟩

/-- A path of a log leads to a file once the log is written. -/
theorem sameFile_of_mem {log : List (Text × Text)} {s t : σ} {path text : Text}
    (written : Disk.writeAll log s = .ok t) (member : (path, text) ∈ log) :
    SameFile t path path := by
  obtain ⟨_, _, _, file, -, leads, -, last⟩ := exists_of_mem written member
  have ends : file? path t = some file := file?_writeAll last leads
  exact ⟨file, ends, ends⟩

/-- There is a last write to the file at each path of a log. -/
theorem exists_lastTo_of_mem {log : List (Text × Text)} {s t : σ} {path text : Text}
    (written : Disk.writeAll log s = .ok t) (member : (path, text) ∈ log) :
    ∃ x, LastTo t path log x :=
  exists_lastTo_iff.2 ⟨(path, text), member, sameFile_of_mem written member⟩

/-- **The last write counts.** After a log of writes the file at a path of the log holds exactly the
text of the last write to it. -/
theorem holds_iff_lastTo {log : List (Text × Text)} {s t : σ} {path text : Text}
    (written : Disk.writeAll log s = .ok t) (member : (path, text) ∈ log) (x : Text) :
    Holds t path x ↔ LastTo t path log x := by
  have same := sameFile_of_mem written member
  obtain ⟨before, after, m, file, rfl, leads, content, last⟩ := exists_of_mem written member
  rw [holds_writeAll last leads content, lastTo_append ⟨(path, text), by simp, same⟩]

end LawfulDisk

end NodeClasses
