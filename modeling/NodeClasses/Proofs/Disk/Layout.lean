import NodeClasses.Proofs.Disk.Files

/-!
# Layouts of disks

Whether a file can be written, and which file that is, may depend on where files are but not on what
they hold. The layout of a disk is what it keeps besides the texts of its files. On a disk that is
laid out, a log can be written again and then changes nothing, `writeAll_again`, and what the files
at its paths held before is forgotten, `writeAll_forgets`.
-/

namespace NodeClasses
set_option autoImplicit false

open LawfulDisk

/-- A disk on which the outcome of a write depends on the layout only. -/
class LaidOut (σ : Type) [Disk σ] [LawfulDisk σ] where
  /-- What is kept besides the texts of files. -/
  Layout : Type
  layout : σ → Layout
  /-- Nothing is kept besides the layout and the texts. -/
  ext {s t : σ} (layouts : layout s = layout t)
    (texts : ∀ file : File σ, bytes file s = bytes file t) : s = t
  /-- The layout tells which file a path leads to. -/
  file?_congr {s t : σ} (layouts : layout s = layout t) (path : Text) : file? path s = file? path t
  /-- A write ends in the same way from equal layouts, and leaves equal layouts. -/
  write_congr {s t : σ} (layouts : layout s = layout t) (path text other : Text) :
    (Disk.write path text s).map layout = (Disk.write path other t).map layout
  /-- What was written once can be written again, and has its place then. -/
  write_settled {path text other : Text} {log : List (Text × Text)} {s m t : σ}
    (written : Disk.write path text s = .ok m) (later : Disk.writeAll log m = .ok t) :
    (Disk.write path other t).map layout = .ok (layout t)

namespace LaidOut

variable {σ : Type} [Disk σ] [LawfulDisk σ] [LaidOut σ]

theorem map_layout_eq_ok {r : Except Fault σ} {l : Layout σ} :
    r.map layout = .ok l ↔ ∃ t, r = .ok t ∧ layout t = l := by
  cases r <;> simp [Except.map]

/-- A write that succeeds does so from every disk with that layout. -/
theorem exists_write_of_layout {s s' t : σ} {path text : Text} (layouts : layout s = layout s')
    (written : Disk.write path text s = .ok t) (other : Text) :
    ∃ t', Disk.write path other s' = .ok t' ∧ layout t = layout t' := by
  have same := write_congr layouts path text other
  rw [written] at same
  obtain ⟨t', written', layouts'⟩ := map_layout_eq_ok.1 same.symm
  exact ⟨t', written', layouts'.symm⟩

/-- A write that fails does so from every disk with that layout. -/
theorem write_error_of_layout {s s' : σ} {path text : Text} {fault : Fault}
    (layouts : layout s = layout s') (failed : Disk.write path text s = .error fault)
    (other : Text) : Disk.write path other s' = .error fault := by
  have same := write_congr layouts path text other
  rw [failed] at same
  cases ended : Disk.write path other s' with
  | error fault' => simpa [ended, Except.map, eq_comm] using same
  | ok t => simp [ended, Except.map] at same

theorem exists_writeAll_of_layout {log : List (Text × Text)} {s s' t : σ}
    (layouts : layout s = layout s') (written : Disk.writeAll log s = .ok t) :
    ∃ t', Disk.writeAll log s' = .ok t' ∧ layout t = layout t' := by
  induction log generalizing s s' with
  | nil =>
    obtain rfl := Except.ok.inj written
    exact ⟨s', rfl, layouts⟩
  | cons w log ih =>
    obtain ⟨m, first, rest⟩ := Disk.writeAll_cons_eq_ok.1 written
    obtain ⟨m', first', between⟩ := exists_write_of_layout layouts first w.2
    obtain ⟨t', rest', ends⟩ := ih between rest
    exact ⟨t', Disk.writeAll_cons_eq_ok.2 ⟨m', first', rest'⟩, ends⟩

/-- Paths of a log that is written can be written again, in any order and with any texts, and the
layout stays as it is. -/
theorem exists_writeAll_settled {log again : List (Text × Text)} {s t : σ}
    (written : Disk.writeAll log s = .ok t) (paths : ∀ w ∈ again, ∃ text, (w.1, text) ∈ log) :
    ∃ u, Disk.writeAll again t = .ok u ∧ layout u = layout t := by
  induction again generalizing log t with
  | nil => exact ⟨t, rfl, rfl⟩
  | cons w again ih =>
    obtain ⟨path, other⟩ := w
    obtain ⟨text, member⟩ := paths _ List.mem_cons_self
    obtain ⟨before, after, rfl⟩ := List.append_of_mem member
    obtain ⟨_, -, rest⟩ := Disk.writeAll_append_eq_ok.1 written
    obtain ⟨_, first, later⟩ := Disk.writeAll_cons_eq_ok.1 rest
    have settled : (Disk.write path other t).map layout = .ok (layout t) :=
      write_settled first later
    obtain ⟨m, rewritten, same⟩ := map_layout_eq_ok.1 settled
    -- The new write counts as one more of the log, so that what is settled stays so.
    have one : Disk.writeAll [(path, other)] t = .ok m :=
      Disk.writeAll_cons_eq_ok.2 ⟨m, rewritten, rfl⟩
    have longer := Disk.writeAll_append_eq_ok.2 ⟨t, written, one⟩
    obtain ⟨u, further, ends⟩ := ih longer fun v inside => by
      obtain ⟨text', old⟩ := paths v (List.mem_cons_of_mem _ inside)
      exact ⟨text', List.mem_append_left _ old⟩
    exact ⟨u, Disk.writeAll_cons_eq_ok.2 ⟨m, rewritten, further⟩, ends.trans same⟩

end LaidOut

namespace LawfulDisk

variable {σ : Type} [Disk σ] [LawfulDisk σ]

/-- A path of the log leads to the file. -/
def Reaches (log : List (Text × Text)) (s : σ) (file : File σ) : Prop :=
  ∃ w ∈ log, file? w.1 s = some file

theorem Reaches.writeAll {log before : List (Text × Text)} {s t : σ} {file : File σ}
    (reaches : Reaches log s file) (written : Disk.writeAll before s = .ok t) :
    Reaches log t file := by
  obtain ⟨w, member, leads⟩ := reaches
  exact ⟨w, member, file?_writeAll written leads⟩

/-- A log changes no file but those at its paths. -/
theorem reaches_or_unchanged {log : List (Text × Text)} {s t : σ}
    (written : Disk.writeAll log s = .ok t) (file : File σ) :
    Reaches log t file ∨ bytes file s = bytes file t := by
  induction log generalizing s with
  | nil =>
    obtain rfl := Except.ok.inj written
    exact .inr rfl
  | cons w log ih =>
    obtain ⟨m, first, rest⟩ := Disk.writeAll_cons_eq_ok.1 written
    obtain ⟨target, leads, -, others⟩ := file?_write first
    by_cases same : file = target
    · subst same
      exact .inl ⟨w, List.mem_cons_self, file?_writeAll rest leads⟩
    · rcases ih rest with ⟨v, later, found⟩ | unchanged
      · exact .inl ⟨v, List.mem_cons_of_mem _ later, found⟩
      · exact .inr ((others file same).symm.trans unchanged)

/-- What a file held at first is lost if a log writes to it. -/
theorem bytes_writeAll_congr {log : List (Text × Text)} {s s' t t' : σ} {file : File σ}
    (written : Disk.writeAll log s = .ok t) (written' : Disk.writeAll log s' = .ok t')
    (ways : ∀ path, file? path t = file? path t')
    (start : Reaches log t file ∨ bytes file s = bytes file s') : bytes file t = bytes file t' := by
  induction log generalizing s s' with
  | nil =>
    obtain rfl := Except.ok.inj written
    obtain rfl := Except.ok.inj written'
    rcases start with ⟨w, member, -⟩ | equal
    · cases member
    · exact equal
  | cons w log ih =>
    obtain ⟨m, first, rest⟩ := Disk.writeAll_cons_eq_ok.1 written
    obtain ⟨m', first', rest'⟩ := Disk.writeAll_cons_eq_ok.1 written'
    obtain ⟨target, leads, content, others⟩ := file?_write first
    obtain ⟨target', leads', content', others'⟩ := file?_write first'
    have ends : file? w.1 t = some target := file?_writeAll rest leads
    have ends' : file? w.1 t' = some target' := file?_writeAll rest' leads'
    obtain rfl : target = target' := Option.some.inj (ends.symm.trans ((ways w.1).trans ends'))
    refine ih rest rest' ?_
    by_cases same : file = target
    · -- The first write is to the file, which holds its text on both disks from then on.
      subst same
      exact .inr (content.trans content'.symm)
    · rcases start with ⟨v, member, found⟩ | equal
      · rcases List.mem_cons.1 member with rfl | later
        · exact absurd (Option.some.inj (found.symm.trans ends)) same
        · exact .inl ⟨v, later, found⟩
      · rw [others file same, others' file same]
        exact .inr equal

end LawfulDisk

namespace LaidOut

variable {σ : Type} [Disk σ] [LawfulDisk σ] [LaidOut σ]

/-- A log that is written can be written again, and then nothing changes. -/
theorem writeAll_again {log : List (Text × Text)} {s t : σ}
    (written : Disk.writeAll log s = .ok t) : Disk.writeAll log t = .ok t := by
  obtain ⟨u, again, layouts⟩ := exists_writeAll_settled written fun w member => ⟨w.2, member⟩
  have texts (file : File σ) : bytes file t = bytes file u :=
    bytes_writeAll_congr written again (file?_congr layouts.symm)
      (reaches_or_unchanged written file)
  rw [again, ext layouts.symm texts]

/-- A log leaves one disk, whatever the files at its paths held. -/
theorem writeAll_forgets {log : List (Text × Text)} {s s' t : σ} (layouts : layout s = layout s')
    (start : ∀ file : File σ, Reaches log s file ∨ bytes file s = bytes file s')
    (written : Disk.writeAll log s = .ok t) : Disk.writeAll log s' = .ok t := by
  obtain ⟨t', written', ends⟩ := exists_writeAll_of_layout layouts written
  have texts (file : File σ) : bytes file t = bytes file t' := by
    refine bytes_writeAll_congr written written' (file?_congr ends) ?_
    rcases start file with reaches | equal
    · exact .inl (reaches.writeAll written)
    · exact .inr equal
  rw [written', ext ends texts]

end LaidOut

end NodeClasses
