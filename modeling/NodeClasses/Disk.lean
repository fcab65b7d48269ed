import NodeClasses.Store.Locate
import NodeClasses.Text.Bytes

/-!
# Disks

A disk is anything that keeps files and can be told to write one. A write gives the disk another
state, or it fails and the disk stays as it is. A `Store` is a disk that keeps names and texts in
byte form. A `Draft` is a disk that only keeps in mind what is to be written, which can be done
afterwards: `Disk.perform`.
-/

namespace NodeClasses
set_option autoImplicit false

open Text

/-- A kind of state in which files can be written. -/
class Disk (σ : Type) where
  /-- Writes a whole file, in place of what the path leads to. -/
  write (path text : Text) (s : σ) : Except Fault σ

instance : Disk Store := ⟨fun path text s => s.write (encode path) (encode text)⟩

/-- Writes that are still to be done, in order. -/
structure Draft where
  writes : List (Text × Text)
  deriving DecidableEq, Repr

/-- A draft takes any write. -/
instance : Disk Draft := ⟨fun path text d => .ok ⟨d.writes ++ [(path, text)]⟩⟩

/-- Does writes in order, up to the first that fails. The result is the path and the fault of that
one, if there is one. -/
def Disk.perform {σ : Type} [Disk σ] : List (Text × Text) → σ → σ × Option (Text × Fault)
  | [], s => (s, none)
  | (path, text) :: rest, s =>
    match Disk.write path text s with
    | .error fault => (s, some (path, fault))
    | .ok t => perform rest t

end NodeClasses
