import NodeClasses.Text.Basic

/-!
# Stores

A store holds files, directories and links at locations below a root, and has a working directory.
Names and texts are in byte form. Files and directories are told apart by numbers: a file may have
several names, and a directory stays the same one under a new name. A store has a clock, and files
and directories know when they were last changed. The view of a store is `Store.get?`.
-/

namespace NodeClasses
set_option autoImplicit false

/-- A moment: how many billionths of a second it is from the start of the year 1970 on. -/
abbrev Moment := Int

/-- The names that lead from the root to a place. -/
abbrev Location := List Text

/-- What a location holds. -/
inductive Slot where
  | file (number : Nat)
  | directory (number : Nat)
  /-- A path that is followed in place of the location. -/
  | link (path : Text)
  deriving DecidableEq, Repr

/-- What is seen at a location. -/
inductive Entry where
  /-- A file with its text and its permission bits. -/
  | file (text : Text) (mode : Nat)
  /-- A directory. -/
  | directory
  /-- A link with the path that it stands for. -/
  | link (path : Text)
  deriving DecidableEq, Repr

/-- What a file is made of. -/
structure Content where
  text : Text
  /-- The permission bits. -/
  mode : Nat
  /-- When the text was last changed. -/
  time : Moment
  deriving DecidableEq, Repr

/-- Files, directories and links below a root that always exists. -/
structure Store where
  /-- What lies below the root, in the order in which it was made. -/
  slots : List (Location × Slot)
  /-- The files by their numbers. A file that has lost its last name is kept. A directory is here
  without a text. -/
  files : List (Nat × Content)
  /-- The number of the directory where relative paths start. -/
  workingDirectory : Nat
  /-- The moment that it is. -/
  clock : Moment
  deriving DecidableEq, Repr

/-- The number of a file or a directory. -/
def Slot.number? : Slot → Option Nat
  | .file n => some n
  | .directory n => some n
  | .link _ => none

namespace Store

/-- A table with a new value for a key, in place of the old one or else at the end. -/
def assign {α β : Type} [DecidableEq α] (key : α) (value : β) : List (α × β) → List (α × β)
  | [] => [(key, value)]
  | (other, old) :: rest =>
    if other = key then (key, value) :: rest else (other, old) :: assign key value rest

theorem lookup_assign {α β : Type} [DecidableEq α] [BEq α] [LawfulBEq α] (key other : α)
    (value : β) (table : List (α × β)) :
    (assign key value table).lookup other =
      if other = key then some value else table.lookup other := by
  induction table with
  | nil =>
    by_cases h : other = key
    · simp [assign, h]
    · simp [assign, h, List.lookup_cons, beq_false_of_ne h]
  | cons p rest ih =>
    obtain ⟨first, old⟩ := p
    unfold assign
    by_cases hp : first = key
    · subst hp
      by_cases h : other = first
      · simp [h]
      · simp [h, List.lookup_cons, beq_false_of_ne h]
    · rw [if_neg hp, List.lookup_cons, List.lookup_cons, ih]
      by_cases h : other = first
      · simp [h, hp]
      · simp [beq_false_of_ne h]

/-- The number of the root. -/
def rootNumber : Nat := 0

/-- What a location holds. -/
def slot? (s : Store) (here : Location) : Option Slot :=
  if here = [] then some (.directory rootNumber) else s.slots.lookup here

/-- What the file with the given number is made of. -/
def content (s : Store) (number : Nat) : Content := (s.files.lookup number).getD ⟨[], 0, 0⟩

/-- How the content of a location is seen. -/
def seen (s : Store) : Slot → Entry
  | .file number => .file (s.content number).text (s.content number).mode
  | .directory _ => .directory
  | .link path => .link path

/-- What is seen at a location. -/
def get? (s : Store) (here : Location) : Option Entry := (s.slot? here).map s.seen

/-- The numbers that are in use. -/
def numbers (s : Store) : List Nat :=
  s.slots.filterMap (fun p => p.2.number?) ++ s.files.map Prod.fst

/-- A number that is not in use. -/
def fresh (s : Store) : Nat := s.numbers.foldr max rootNumber + 1

/-- Changes the file with the given number. -/
def setContent (s : Store) (number : Nat) (c : Content) : Store :=
  { s with files := assign number c s.files }

/-- The permission bits of a new directory. -/
def newDirectoryMode : Nat := 0o755

/-- The permission bits of a link. -/
def linkMode : Nat := 0o777

/-- The permission bits of what a location holds. -/
def modeOf (s : Store) : Slot → Nat
  | .file number | .directory number => (s.content number).mode
  | .link _ => linkMode

/-- The permission bits at a location. -/
def modeAt (s : Store) (here : Location) : Nat := ((s.slot? here).map s.modeOf).getD 0

/-- Sets the permission bits at a location. A link has always the same ones. -/
def setModeAt (s : Store) (here : Location) (mode : Nat) : Store :=
  match s.slot? here with
  | some (.file number) | some (.directory number) =>
    s.setContent number { s.content number with mode := mode }
  | _ => s

/-- When what is at a location was last changed. It is not kept in mind for links. -/
def timeAt (s : Store) (here : Location) : Moment :=
  match s.slot? here with
  | some (.file number) | some (.directory number) => (s.content number).time
  | _ => s.clock

/-- Lets time pass. -/
def wait (s : Store) (duration : Int) : Store := { s with clock := s.clock + duration }

/-- Puts an entry at a location, in place of what was there. A file that is there already stays the
same file and gets another text, under all its names. -/
def put (s : Store) (here : Location) (e : Entry) : Store :=
  match e, s.slot? here with
  | .file text mode, some (.file number) => s.setContent number ⟨text, mode, s.clock⟩
  | .file text mode, _ =>
    { s with
      slots := assign here (.file s.fresh) s.slots
      files := assign s.fresh ⟨text, mode, s.clock⟩ s.files }
  | .directory, some (.directory _) => s
  | .directory, _ =>
    { s with
      slots := assign here (.directory s.fresh) s.slots
      files := assign s.fresh ⟨[], newDirectoryMode, s.clock⟩ s.files }
  | .link path, _ => { s with slots := assign here (.link path) s.slots }

/-- Takes away the names at a location and below it. -/
def erase (s : Store) (here : Location) : Store :=
  { s with slots := s.slots.filter fun p => !here.isPrefixOf p.1 }

/-- Gives what is at a location, with all that is below it, another location in place of what was
there. -/
def rename (s : Store) (here there : Location) : Store :=
  let moved := s.slots.filterMap fun p =>
    (here.isPrefixOf? p.1).map fun below => (there ++ below, p.2)
  { s with slots := ((s.erase here).erase there).slots ++ moved }

/-- Gives what is at a location one more location. -/
def share (s : Store) (here there : Location) : Store :=
  match s.slot? here with
  | none => s
  | some slot => { s with slots := assign there slot s.slots }

/-- Do two locations hold the same file or directory? -/
def isSame (s : Store) (here there : Location) : Bool :=
  match s.slot? here, s.slot? there with
  | some (.file m), some (.file n) => m == n
  | some (.directory m), some (.directory n) => m == n
  | _, _ => false

/-- The location of the directory with the given number. -/
def locationOf? (s : Store) (number : Nat) : Option Location :=
  if number = rootNumber then some []
  else (s.slots.find? fun p => p.2 == .directory number).map Prod.fst

/-- The location of the working directory, unless it is taken away. -/
def here? (s : Store) : Option Location := s.locationOf? s.workingDirectory

/-- Makes the directory at a location the working directory. -/
def enter (s : Store) (here : Location) : Store :=
  match s.slot? here with
  | some (.directory number) => { s with workingDirectory := number }
  | _ => s

/-- A store in which there is nothing but the root. -/
def blank : Store where
  slots := []
  files := [(rootNumber, ⟨[], newDirectoryMode, 0⟩)]
  workingDirectory := rootNumber
  clock := 0

/-- A store with entries put into it one after the other. -/
def putAll (s : Store) (es : List (Location × Entry)) : Store :=
  es.foldl (fun s p => s.put p.1 p.2) s

/-- The directories that lead to a location, and the one that is there. -/
def directoriesTo (here : Location) : List (Location × Entry) :=
  (List.range here.length).map fun n => (here.take (n + 1), .directory)

/-- A store in which there is nothing but the directories that lead to the working directory. -/
def empty (workingDirectory : Location) : Store :=
  (blank.putAll (directoriesTo workingDirectory)).enter workingDirectory

@[simp] theorem slot?_root (s : Store) : s.slot? [] = some (.directory rootNumber) := by
  simp [slot?]

theorem content_setContent (s : Store) (m n : Nat) (c : Content) :
    (s.setContent m c).content n = if n = m then c else s.content n := by
  unfold content setContent
  rw [lookup_assign]
  split <;> rfl

end Store

end NodeClasses
