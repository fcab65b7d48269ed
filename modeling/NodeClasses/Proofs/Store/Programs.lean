import NodeClasses.Store.Locate

/-!
# Programs in a store

A program is a regular file that somebody may execute, which three of its permission bits tell:
`isExecutable_iff`. A path that leads nowhere, to a directory or to a file without those bits leads
to no program.
-/

namespace NodeClasses.Store
set_option autoImplicit false

/-- Somebody may execute a file with these permission bits: its owner, its group or the others. -/
def MayExecute (mode : Nat) : Prop :=
  mode.testBit 6 = true ∨ mode.testBit 3 = true ∨ mode.testBit 0 = true

/-- The path leads to a regular file that somebody may execute. -/
def HoldsProgram (s : Store) (path : Text) : Prop :=
  ∃ here text mode, s.locate path = .ok here ∧ s.get? here = some (.file text mode) ∧
    MayExecute mode

/-- What a path can lead to that is no program. -/
inductive HoldsNoProgram (s : Store) (path : Text) : Prop where
  /-- The way to the path breaks off. -/
  | unreachable {fault : Fault} (located : s.locate path = .error fault)
  | missing {here : Location} (located : s.locate path = .ok here) (nothing : s.get? here = none)
  | directory {here : Location} (located : s.locate path = .ok here)
      (found : s.get? here = some .directory)
  /-- There is a regular file, and nobody may execute it. -/
  | forbidden {here : Location} {text : Text} {mode : Nat} (located : s.locate path = .ok here)
      (found : s.get? here = some (.file text mode)) (nobody : ¬ MayExecute mode)

theorem testBit_executeBits {bit : Nat} :
    executeBits.testBit bit = true ↔ bit = 6 ∨ bit = 3 ∨ bit = 0 := by
  have bits : executeBits = 2 ^ 6 ||| 2 ^ 3 ||| 2 ^ 0 := by decide
  rw [bits]
  simp only [Nat.testBit_or, Nat.testBit_two_pow, Bool.or_eq_true, decide_eq_true_eq]
  omega

theorem and_executeBits_ne_zero_iff {mode : Nat} : mode &&& executeBits ≠ 0 ↔ MayExecute mode := by
  have shared (bit : Nat) : (mode &&& executeBits).testBit bit = true ↔
      mode.testBit bit = true ∧ (bit = 6 ∨ bit = 3 ∨ bit = 0) := by
    rw [Nat.testBit_and, Bool.and_eq_true, testBit_executeBits]
  constructor
  · intro nonzero
    obtain ⟨bit, set⟩ := Nat.exists_testBit_of_ne_zero nonzero
    obtain ⟨own, rfl | rfl | rfl⟩ := (shared bit).1 set
    · exact .inl own
    · exact .inr (.inl own)
    · exact .inr (.inr own)
  · intro may zero
    have unset (bit : Nat) : ¬ (mode &&& executeBits).testBit bit = true := by simp [zero]
    rcases may with owner | group | others
    · exact unset 6 ((shared 6).2 ⟨owner, .inl rfl⟩)
    · exact unset 3 ((shared 3).2 ⟨group, .inr (.inl rfl)⟩)
    · exact unset 0 ((shared 0).2 ⟨others, .inr (.inr rfl)⟩)

theorem isExecutable_iff {s : Store} {path : Text} :
    s.isExecutable path = true ↔ s.HoldsProgram path := by
  unfold isExecutable
  cases read : s.readFile path with
  | error fault =>
    refine iff_of_false (by simp) ?_
    rintro ⟨here, text, mode, located, found, -⟩
    rw [readFile_eq_ok_iff.2 ⟨here, located, found⟩] at read
    cases read
  | ok file =>
    obtain ⟨text, mode⟩ := file
    rw [bne_iff_ne, and_executeBits_ne_zero_iff]
    constructor
    · intro may
      obtain ⟨here, located, found⟩ := readFile_eq_ok_iff.1 read
      exact ⟨here, text, mode, located, found, may⟩
    · rintro ⟨here, text', mode', located, found, may⟩
      rw [readFile_eq_ok_iff.2 ⟨here, located, found⟩] at read
      cases read
      exact may

/-- Where a path leads decides whether it leads to a program. -/
theorem holdsProgram_at {s : Store} {path : Text} {here : Location}
    (located : s.locate path = .ok here) :
    s.HoldsProgram path ↔ ∃ text mode, s.get? here = some (.file text mode) ∧ MayExecute mode := by
  constructor
  · rintro ⟨here', text, mode, located', found, may⟩
    obtain rfl := Except.ok.inj (located.symm.trans located')
    exact ⟨text, mode, found, may⟩
  · rintro ⟨text, mode, found, may⟩
    exact ⟨here, text, mode, located, found, may⟩

theorem HoldsNoProgram.not_holdsProgram {s : Store} {path : Text} (other : s.HoldsNoProgram path) :
    ¬ s.HoldsProgram path := by
  cases other with
  | unreachable located =>
    rintro ⟨here, text, mode, located', -⟩
    rw [located] at located'
    cases located'
  | missing located nothing => simp [holdsProgram_at located, nothing]
  | directory located found => simp [holdsProgram_at located, found]
  | forbidden located found nobody => simpa [holdsProgram_at located, found] using nobody

end NodeClasses.Store
