import NodeClasses.Proofs.Disk.Layout
import NodeClasses.Proofs.Store.Ways

/-!
# The layout of a store

A store without the texts of its files is bare. Ways through a store do not depend on texts, so a
write to it is a write to the bare store, `bare_write`. A file that was written just now is settled:
writing it again leaves the bare store as it is. So a store is laid out, and its layout is the bare
store.
-/

namespace NodeClasses
set_option autoImplicit false

open Text

/-- The content without its text. -/
def Content.bare (c : Content) : Content := { c with text := [] }

/-- What is seen when texts are not. -/
def Entry.bare : Entry → Entry
  | .file _ mode => .file [] mode
  | .directory => .directory
  | .link path => .link path

namespace Store

/-- A table of contents without the texts that can be found in it. For a number that comes twice
only the first content can be found, and those for the given numbers cannot. -/
def bareTable : List Nat → List (Nat × Content) → List (Nat × Content)
  | _, [] => []
  | passed, (number, c) :: rest =>
    (number, if number ∈ passed then c else c.bare) :: bareTable (number :: passed) rest

/-- The store without texts. -/
def bare (s : Store) : Store := { s with files := bareTable [] s.files }

section

variable {passed : List Nat} {number : Nat}

theorem map_fst_bareTable (passed : List Nat) (table : List (Nat × Content)) :
    (bareTable passed table).map Prod.fst = table.map Prod.fst := by
  induction table generalizing passed with
  | nil => rfl
  | cons p rest ih => simp [bareTable, ih]

theorem lookup_bareTable (table : List (Nat × Content)) (found : number ∉ passed) :
    (bareTable passed table).lookup number = (table.lookup number).map Content.bare := by
  induction table generalizing passed with
  | nil => rfl
  | cons p rest ih =>
    obtain ⟨other, c⟩ := p
    rw [bareTable, List.lookup_cons, List.lookup_cons]
    by_cases same : number = other
    · subst same
      simp [found]
    · rw [beq_false_of_ne same]
      exact ih (List.not_mem_cons_of_ne_of_not_mem same found)

theorem bareTable_assign (c : Content) (table : List (Nat × Content)) (found : number ∉ passed) :
    bareTable passed (assign number c table) = assign number c.bare (bareTable passed table) := by
  induction table generalizing passed with
  | nil => simp [assign, bareTable, found]
  | cons p rest ih =>
    obtain ⟨other, old⟩ := p
    by_cases same : other = number
    · subst same
      simp [assign, bareTable, found]
    · have later := ih (List.not_mem_cons_of_ne_of_not_mem (Ne.symm same) found)
      simp [assign, bareTable, same, later]

/-- A table is told by its bare form and by the texts that can be found in it. -/
theorem eq_of_bareTable_eq {table table' : List (Nat × Content)}
    (bare : bareTable passed table = bareTable passed table')
    (texts : ∀ number ∉ passed, ((table.lookup number).map Content.text) =
      (table'.lookup number).map Content.text) : table = table' := by
  induction table generalizing passed table' with
  | nil =>
    cases table' with
    | nil => rfl
    | cons p' rest' => simp [bareTable] at bare
  | cons p rest ih =>
    obtain ⟨number, c⟩ := p
    cases table' with
    | nil => simp [bareTable] at bare
    | cons p' rest' =>
      obtain ⟨number', c'⟩ := p'
      simp only [bareTable, List.cons.injEq, Prod.mk.injEq] at bare
      obtain ⟨⟨rfl, contents⟩, rests⟩ := bare
      have same : c = c' := by
        by_cases passing : number ∈ passed
        · simpa [passing] using contents
        · have text : c.text = c'.text := by simpa using texts number passing
          obtain ⟨words, mode, time⟩ := c
          obtain ⟨words', mode', time'⟩ := c'
          simpa [passing, Content.bare, show words = words' from text] using contents
      have later : rest = rest' := by
        refine ih rests fun other apart => ?_
        obtain ⟨differs, unpassed⟩ := List.ne_and_not_mem_of_not_mem_cons apart
        simpa [List.lookup_cons, beq_false_of_ne differs] using texts other unpassed
      rw [same, later]

end

@[simp] theorem slot?_bare (s : Store) : s.bare.slot? = s.slot? := rfl

@[simp] theorem here?_bare (s : Store) : s.bare.here? = s.here? := rfl

@[simp] theorem clock_bare (s : Store) : s.bare.clock = s.clock := rfl

@[simp] theorem fresh_bare (s : Store) : s.bare.fresh = s.fresh := by
  simp only [fresh, numbers, bare, map_fst_bareTable]

theorem content_bare (s : Store) (number : Nat) :
    s.bare.content number = (s.content number).bare := by
  rw [content, bare, lookup_bareTable _ List.not_mem_nil, content]
  cases s.files.lookup number <;> rfl

theorem get?_bare (s : Store) (place : Location) :
    s.bare.get? place = (s.get? place).map Entry.bare := by
  rw [get?, get?, slot?_bare, Option.map_map]
  congr 1
  funext slot
  cases slot with
  | file number => simp [seen, Entry.bare, content_bare, Content.bare]
  | directory number => rfl
  | link path => rfl

/-- A walk sees directories and links but no texts. -/
theorem walk_bare (s : Store) (follows : Bool)
    (onLink : Location → List Text → Except Fault Location) (here : Location)
    (segments : List Text) :
    s.bare.walk follows onLink here segments = s.walk follows onLink here segments := by
  induction segments generalizing here with
  | nil => rfl
  | cons segment rest ih =>
    simp only [walk, get?_bare, ih]
    rcases s.get? here with _ | (_ | _ | _)
    case some.directory =>
      rcases s.get? (here ++ [segment]) with _ | (_ | _ | _) <;> rfl
    all_goals rfl

theorem locateFrom_bare (s : Store) (follows : Bool) (n : Nat) :
    s.bare.locateFrom follows n = s.locateFrom follows n := by
  induction n with
  | zero =>
    funext here segments
    exact s.walk_bare follows _ here segments
  | succ n ih =>
    funext here segments
    rw [locateFrom, ih]
    exact s.walk_bare follows _ here segments

@[simp] theorem locate_bare (s : Store) (path : Text) : s.bare.locate path = s.locate path := by
  simp only [locate, locateBy, startOf?, here?_bare, locateFrom_bare]

@[simp] theorem locateFile_bare (s : Store) (path : Text) :
    s.bare.locateFile path = s.locateFile path := by
  simp only [locateFile, locate_bare, locateName, locateBy, startOf?, here?_bare, locateFrom_bare]

theorem bare_put (s : Store) (place : Location) (text : Text) (mode : Nat) :
    (s.put place (.file text mode)).bare = s.bare.put place (.file [] mode) := by
  have files (number : Nat) : bareTable [] (assign number ⟨text, mode, s.clock⟩ s.files) =
      assign number ⟨[], mode, s.clock⟩ (bareTable [] s.files) :=
    bareTable_assign _ _ List.not_mem_nil
  simp only [put, slot?_bare, clock_bare, fresh_bare]
  rcases s.slot? place with _ | (_ | _ | _) <;> simp [bare, setContent, files]

/-- A write is a write to the bare store, whatever its text. -/
theorem bare_write (s : Store) (path text : Text) :
    (s.write path text).map bare = s.bare.write path [] := by
  simp only [write, edit, locateFile_bare, get?_bare]
  cases s.locateFile path with
  | error fault => rfl
  | ok place =>
    cases seen : s.get? place with
    | none => simp [seen, Except.map, bare_put]
    | some entry => cases entry <;> simp [seen, Except.map, Entry.bare, bare_put]

/-- The path leads to a file that was changed just now. -/
def Settled (s : Store) (path : Text) : Prop :=
  ∃ place number c, s.locateFile path = .ok place ∧ s.slot? place = some (.file number) ∧
    s.files.lookup number = some c ∧ c.time = s.clock

theorem settled_write {s t : Store} {path text : Text} (written : s.write path text = .ok t) :
    t.Settled path := by
  obtain ⟨place, mode, found, free, rfl⟩ := write_eq_ok written
  obtain ⟨number, slot, files⟩ := files_put text free
  refine ⟨place, number, ⟨text, mode, s.clock⟩, (grows_put text free).locateFile found, slot, ?_,
    (clock_put s place _).symm⟩
  rw [files, lookup_assign, if_pos rfl]

/-- No time passes in a write, so what was changed just now stays so. -/
theorem Settled.write {s t : Store} {path way text : Text} (settled : s.Settled path)
    (written : s.write way text = .ok t) : t.Settled path := by
  obtain ⟨place, number, c, found, slot, content, now⟩ := settled
  obtain ⟨there, mode, -, free, rfl⟩ := write_eq_ok written
  have grows := grows_put text free
  obtain ⟨other, -, files⟩ := files_put text free
  by_cases same : number = other
  · refine ⟨place, number, ⟨text, mode, s.clock⟩, grows.locateFile found,
      grows.kept place _ slot, ?_, (clock_put s there _).symm⟩
    rw [files, lookup_assign, if_pos same]
  · refine ⟨place, number, c, grows.locateFile found, grows.kept place _ slot, ?_, ?_⟩
    · rw [files, lookup_assign, if_neg same, content]
    · rw [clock_put, now]

theorem Settled.writeAll {s t : Store} {path : Text} {log : List (Text × Text)}
    (settled : s.Settled path) (written : Disk.writeAll log s = .ok t) : t.Settled path := by
  induction log generalizing s with
  | nil =>
    obtain rfl := Except.ok.inj written
    exact settled
  | cons w log ih =>
    obtain ⟨m, first, rest⟩ := Disk.writeAll_cons_eq_ok.1 written
    exact ih (settled.write first) rest

theorem assign_of_lookup {α β : Type} [DecidableEq α] [BEq α] [LawfulBEq α] {key : α} {value : β}
    {table : List (α × β)} (held : table.lookup key = some value) :
    assign key value table = table := by
  induction table with
  | nil => simp at held
  | cons p rest ih =>
    obtain ⟨other, old⟩ := p
    by_cases same : key = other
    · subst same
      simp only [List.lookup_cons_self, Option.some.injEq] at held
      simp [assign, held]
    · rw [List.lookup_cons, beq_false_of_ne same] at held
      rw [assign, if_neg (Ne.symm same), ih held]

/-- Writing a settled file changes nothing but its text. -/
theorem Settled.bare_write {s : Store} {path : Text} (settled : s.Settled path) (text : Text) :
    (s.write path text).map bare = .ok s.bare := by
  obtain ⟨place, number, c, found, slot, content, now⟩ := settled
  have seen : s.get? place = some (.file c.text c.mode) := by
    simp [get?, slot, Store.seen, Store.content, content]
  have held : (bareTable [] s.files).lookup number = some ⟨[], c.mode, s.clock⟩ := by
    rw [lookup_bareTable _ List.not_mem_nil, content, ← now]
    rfl
  have written : s.write path text = .ok (s.put place (.file text c.mode)) := by
    simp [Store.write, edit, found, seen]
  have put : s.bare.put place (.file [] c.mode) = s.bare := by
    simp only [Store.put, slot?_bare, slot, setContent, clock_bare]
    rw [bare, assign_of_lookup held]
  rw [written, Except.map, bare_put, put]

/-- A store is told by its bare form and the texts of its files. -/
theorem eq_of_bare_eq {s t : Store} (bare : s.bare = t.bare)
    (texts : ∀ number, (s.content number).text = (t.content number).text) : s = t := by
  obtain ⟨slots, files, home, clock⟩ := s
  obtain ⟨slots', files', home', clock'⟩ := t
  simp only [Store.bare, Store.mk.injEq] at bare
  obtain ⟨rfl, tables, rfl, rfl⟩ := bare
  have same : files = files' := by
    refine eq_of_bareTable_eq tables fun number found => ?_
    have text := texts number
    have contents := congrArg (List.lookup number) tables
    rw [lookup_bareTable _ found, lookup_bareTable _ found] at contents
    simp only [content] at text
    -- A number is in both tables or in neither of them.
    cases first : files.lookup number with
    | none =>
      rw [first, Option.map_none, eq_comm, Option.map_eq_none_iff] at contents
      rw [contents]
    | some c =>
      rw [first, Option.map_some, eq_comm, Option.map_eq_some_iff] at contents
      obtain ⟨c', second, -⟩ := contents
      simpa [first, second] using text
  rw [same]

/-- The layout of a store is the bare store. -/
instance : LaidOut Store where
  Layout := Store
  layout := bare
  ext := eq_of_bare_eq
  file?_congr {s t} layouts path := by
    have way (u : Store) : file? path u = file? path u.bare := by
      simp only [file?, locate_bare, slot?_bare]
    exact (way s).trans ((congrArg (file? path) layouts).trans (way t).symm)
  write_congr {s t} layouts path text other := by
    change (s.write _ _).map bare = (t.write _ _).map bare
    rw [Store.bare_write, Store.bare_write, layouts]
  write_settled {path text other log s m t} written later := by
    have settled : m.Settled (encode path) := settled_write written
    exact (settled.writeAll later).bare_write (encode other)

end Store

end NodeClasses
