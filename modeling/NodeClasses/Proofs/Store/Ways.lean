import NodeClasses.Proofs.Disk.Files

/-!
# Ways through a store

A write may add a file to a store, and it leaves directories and links alone. Ways through a store
that grows in this manner stay ways: `Grows.locate`. With it a store is a lawful disk, whatever
names and links its files have.
-/

namespace NodeClasses.Store
set_option autoImplicit false

open Text

/-- The second store has all names of the first one, and where it has more they name files. -/
structure Grows (s t : Store) : Prop where
  here : t.here? = s.here?
  kept : ∀ (place : Location) (slot : Slot), s.slot? place = some slot → t.slot? place = some slot
  added : ∀ (place : Location) (slot : Slot), s.slot? place = none → t.slot? place = some slot →
    ∃ number, slot = .file number

theorem get?_eq_directory {s : Store} {place : Location} :
    s.get? place = some .directory ↔ ∃ number, s.slot? place = some (.directory number) := by
  unfold get?
  rcases s.slot? place with _ | (_ | _ | _) <;> simp [seen]

theorem get?_eq_link {s : Store} {place : Location} {path : Text} :
    s.get? place = some (.link path) ↔ s.slot? place = some (.link path) := by
  unfold get?
  rcases s.slot? place with _ | (_ | _ | _) <;> simp [seen]

theorem Grows.directory {s t : Store} {place : Location} (grows : Grows s t)
    (seen : s.get? place = some .directory) : t.get? place = some .directory := by
  obtain ⟨number, slot⟩ := get?_eq_directory.1 seen
  exact get?_eq_directory.2 ⟨number, grows.kept place _ slot⟩

theorem Grows.link_iff {s t : Store} {place : Location} {path : Text} (grows : Grows s t) :
    t.get? place = some (.link path) ↔ s.get? place = some (.link path) := by
  rw [get?_eq_link, get?_eq_link]
  constructor
  · intro new
    cases old : s.slot? place with
    | none =>
      obtain ⟨number, file⟩ := grows.added place _ old new
      cases file
    | some slot => rw [← new, grows.kept place slot old]
  · exact grows.kept place _

/-- A walk goes on where the other store leads it, if links are followed there to the same end. -/
theorem Grows.walk {s t : Store} {follows : Bool}
    {onLink onLink' : Location → List Text → Except Fault Location} (grows : Grows s t)
    (links : ∀ start segments there, onLink start segments = .ok there →
      onLink' start segments = .ok there)
    {here there : Location} {segments : List Text}
    (found : s.walk follows onLink here segments = .ok there) :
    t.walk follows onLink' here segments = .ok there := by
  induction segments generalizing here with
  | nil => exact found
  | cons segment rest ih =>
    unfold Store.walk at found ⊢
    cases seen : s.get? here with
    | none => simp [seen] at found
    | some entry =>
      cases entry with
      | file text mode => simp [seen] at found
      | link path => simp [seen] at found
      | directory =>
        simp only [seen] at found
        simp only [grows.directory seen]
        by_cases idle : Path.isIdle segment = true
        · rw [if_pos idle] at found ⊢
          exact ih found
        by_cases up : segment = ".."
        · rw [if_neg idle, if_pos up] at found ⊢
          exact ih found
        by_cases long : segmentLimit < segment.length
        · rw [if_neg idle, if_neg up, if_pos long] at found
          cases found
        rw [if_neg idle, if_neg up, if_neg long] at found ⊢
        -- A place that is new holds no link, so both walks turn off at the same segments.
        by_cases leads : ∃ path, s.get? (here ++ [segment]) = some (.link path)
        · obtain ⟨path, link⟩ := leads
          simp only [link] at found
          simp only [grows.link_iff.2 link]
          by_cases goal : rest = [] ∧ follows = false
          · rw [if_pos goal] at found ⊢
            exact found
          · rw [if_neg goal] at found ⊢
            exact links _ _ _ found
        · have noLink : ¬ ∃ path, t.get? (here ++ [segment]) = some (.link path) := by
            rintro ⟨path, link⟩
            exact leads ⟨path, grows.link_iff.1 link⟩
          split at found
          · next path link => exact absurd ⟨path, link⟩ leads
          · split
            · next path link => exact absurd ⟨path, link⟩ noLink
            · exact ih found

theorem Grows.locateFrom {s t : Store} {follows : Bool} {n : Nat} (grows : Grows s t)
    {here there : Location} {segments : List Text}
    (found : s.locateFrom follows n here segments = .ok there) :
    t.locateFrom follows n here segments = .ok there := by
  induction n generalizing here there segments with
  | zero => exact grows.walk (fun _ _ _ failed => absurd failed (by simp)) found
  | succ n ih => exact grows.walk (fun _ _ _ further => ih further) found

/-- Where a path leads, it leads after the store has grown. -/
theorem Grows.locate {s t : Store} {path : Text} {there : Location} (grows : Grows s t)
    (found : s.locate path = .ok there) : t.locate path = .ok there := by
  have start : t.startOf? path = s.startOf? path := by rw [startOf?, startOf?, grows.here]
  unfold Store.locate locateBy at found ⊢
  rw [start]
  by_cases nul : '\x00' ∈ path
  · simp [nul] at found
  by_cases long : pathLimit ≤ path.length
  · simp [nul, long] at found
  by_cases nowhere : path = []
  · rw [if_neg nul, if_neg long, if_pos nowhere] at found
    cases found
  rw [if_neg nul, if_neg long, if_neg nowhere] at found ⊢
  cases started : s.startOf? path with
  | none => simp [started] at found
  | some start =>
    simp only [started] at found ⊢
    exact grows.locateFrom found

/-- A file can be made only where its path leads. -/
theorem locate_of_locateFile {s : Store} {path : Text} {there : Location}
    (found : s.locateFile path = .ok there) : s.locate path = .ok there := by
  unfold locateFile at found
  split at found
  · exact found
  · split at found
    · split at found <;> cases found
    · exact found

theorem Grows.locateFile {s t : Store} {path : Text} {place : Location} (grows : Grows s t)
    (found : s.locateFile path = .ok place) : t.locateFile path = .ok place := by
  have located := grows.locate (locate_of_locateFile found)
  unfold Store.locateFile at found ⊢
  split at found
  · exact located
  · split at found
    · split at found <;> cases found
    · next named => rw [if_neg named]; exact located

theorem assign_of_lookup_eq_none {α β : Type} [DecidableEq α] [BEq α] [LawfulBEq α] {key : α}
    {value : β} {table : List (α × β)} (new : table.lookup key = none) :
    assign key value table = table ++ [(key, value)] := by
  induction table with
  | nil => rfl
  | cons p rest ih =>
    obtain ⟨other, old⟩ := p
    by_cases same : key = other
    · simp [same] at new
    · rw [List.lookup_cons, beq_false_of_ne same] at new
      rw [assign, if_neg (Ne.symm same), ih new, List.cons_append]

/-- The store after a new file is put at a location. -/
theorem put_new {s : Store} {place : Location} (new : s.slot? place = none) (text : Text)
    (mode : Nat) :
    s.put place (.file text mode) =
      { s with
        slots := s.slots ++ [(place, .file s.fresh)]
        files := assign s.fresh ⟨text, mode, s.clock⟩ s.files } := by
  have missing : s.slots.lookup place = none := by
    unfold slot? at new
    split at new
    · cases new
    · exact new
  simp [put, new, assign_of_lookup_eq_none missing]

/-- Where a store has something that is seen as a file, putting a file gives that file another
content. -/
theorem put_over_file {s : Store} {place : Location} {held : Slot} {mode : Nat} (text : Text)
    (slot : s.slot? place = some held)
    (free : s.get? place = none ∨ ∃ old, s.get? place = some (.file old mode)) :
    ∃ number, held = .file number ∧
      s.put place (.file text mode) = s.setContent number ⟨text, mode, s.clock⟩ := by
  obtain ⟨number, rfl⟩ : ∃ number, held = .file number := by
    rcases held with number | number | path <;> simp [get?, slot, seen] at free ⊢
  exact ⟨number, rfl, by simp [put, slot]⟩

/-- Putting a file where one is, or where nothing is, lets the store grow. -/
theorem grows_put {s : Store} {place : Location} {mode : Nat} (text : Text)
    (free : s.get? place = none ∨ ∃ old, s.get? place = some (.file old mode)) :
    Grows s (s.put place (.file text mode)) := by
  cases slot : s.slot? place with
  | none =>
    rw [put_new slot]
    refine ⟨?_, ?_, ?_⟩
    · unfold here? locationOf?
      split
      · rfl
      · simp [List.find?_append]
    · intro other found old
      unfold slot? at old ⊢
      split at old
      · next root => rw [if_pos root]; exact old
      · next root => rw [if_neg root, List.lookup_append, old]; rfl
    · intro other found old new
      unfold slot? at old new
      split at old
      · cases old
      · next root =>
        rw [if_neg root, List.lookup_append, old] at new
        simp only [Option.none_or, List.lookup_cons] at new
        split at new <;> cases new
        exact ⟨_, rfl⟩
  | some held =>
    obtain ⟨number, rfl, changed⟩ := put_over_file text slot free
    rw [changed]
    exact ⟨rfl, fun _ _ held => held, fun _ _ old new => absurd (old.symm.trans new) (by simp)⟩

/-- Putting a file assigns a content to one number, and the file with that number is then at the
location. -/
theorem files_put {s : Store} {place : Location} {mode : Nat} (text : Text)
    (free : s.get? place = none ∨ ∃ old, s.get? place = some (.file old mode)) :
    ∃ number, (s.put place (.file text mode)).slot? place = some (.file number) ∧
      (s.put place (.file text mode)).files = assign number ⟨text, mode, s.clock⟩ s.files := by
  cases slot : s.slot? place with
  | none =>
    have root : place ≠ [] := by
      rintro rfl
      simp at slot
    have missing : s.slots.lookup place = none := by rwa [slot?, if_neg root] at slot
    refine ⟨s.fresh, ?_, by rw [put_new slot]⟩
    rw [put_new slot, slot?, if_neg root, List.lookup_append, missing]
    simp
  | some held =>
    obtain ⟨number, rfl, changed⟩ := put_over_file text slot free
    rw [changed]
    exact ⟨number, slot, rfl⟩

theorem clock_put (s : Store) (place : Location) (e : Entry) : (s.put place e).clock = s.clock := by
  unfold put
  split <;> rfl

/-- Putting a file changes the content of one file, which is then at the location. -/
theorem content_put {s : Store} {place : Location} {mode : Nat} (text : Text)
    (free : s.get? place = none ∨ ∃ old, s.get? place = some (.file old mode)) :
    ∃ number, (s.put place (.file text mode)).slot? place = some (.file number) ∧
      ((s.put place (.file text mode)).content number).text = text ∧
      ∀ other, other ≠ number →
        (s.put place (.file text mode)).content other = s.content other := by
  obtain ⟨number, slot, files⟩ := files_put text free
  have content (n : Nat) : (s.put place (.file text mode)).content n =
      if n = number then ⟨text, mode, s.clock⟩ else s.content n := by
    rw [Store.content, files]
    exact content_setContent s number n ⟨text, mode, s.clock⟩
  refine ⟨number, slot, ?_, ?_⟩
  · rw [content, if_pos rfl]
  · intro other apart
    rw [content, if_neg apart]

/-- The number of the file that a path leads to. -/
def file? (path : Text) (s : Store) : Option Nat :=
  match s.locate (encode path) with
  | .error _ => none
  | .ok place =>
    match s.slot? place with
    | some (.file number) => some number
    | _ => none

theorem file?_eq_some {path : Text} {s : Store} {number : Nat} :
    file? path s = some number ↔
      ∃ place, s.locate (encode path) = .ok place ∧ s.slot? place = some (.file number) := by
  unfold file?
  cases located : s.locate (encode path) with
  | error fault => simp
  | ok place => rcases slot : s.slot? place with _ | (_ | _ | _) <;> simp [slot]

/-- Files of a store are told apart by their numbers. -/
instance : LawfulDisk Store where
  File := Nat
  file? := file?
  bytes number s := (s.content number).text
  file?_write {path text s t} written := by
    obtain ⟨place, mode, found, free, rfl⟩ := write_eq_ok written
    obtain ⟨number, slot, content, others⟩ := content_put (encode text) free
    have located := (grows_put (encode text) free).locate (locate_of_locateFile found)
    refine ⟨number, file?_eq_some.2 ⟨place, located, slot⟩, content, ?_⟩
    intro other apart
    rw [others other apart]
  file?_kept {path text way s t number} written leads := by
    obtain ⟨place, mode, -, free, rfl⟩ := write_eq_ok written
    obtain ⟨there, located, slot⟩ := file?_eq_some.1 leads
    have grows := grows_put (encode text) free
    exact file?_eq_some.2 ⟨there, grows.locate located, grows.kept there _ slot⟩

/-- A path leads to a file with a text exactly if the text is read there. -/
theorem holds_iff_readFile {s : Store} {path text : Text} :
    LawfulDisk.Holds s path text ↔ ∃ mode, s.readFile (encode path) = .ok (encode text, mode) := by
  unfold LawfulDisk.Holds
  constructor
  · rintro ⟨number, leads, content⟩
    obtain ⟨place, located, slot⟩ := file?_eq_some.1 leads
    have seen : s.get? place = some (.file (encode text) (s.content number).mode) := by
      rw [get?, slot, ← content]
      rfl
    exact ⟨(s.content number).mode, readFile_eq_ok_iff.2 ⟨place, located, seen⟩⟩
  · rintro ⟨mode, read⟩
    obtain ⟨place, located, found⟩ := readFile_eq_ok_iff.1 read
    rcases slot : s.slot? place with _ | (number | number | way) <;>
      simp [get?, slot, seen] at found
    exact ⟨number, file?_eq_some.2 ⟨place, located, slot⟩, found.1⟩

end NodeClasses.Store
