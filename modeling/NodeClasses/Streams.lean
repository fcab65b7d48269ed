import NodeClasses.Text.Bytes

/-!
# Output streams

What a run prints goes to two streams, one for its output and one for its complaints. Streams of
runs that follow each other are joined by `++`, stream by stream.
-/

namespace NodeClasses
set_option autoImplicit false

/-- The texts on the two output streams. -/
structure Streams where
  /-- The output. -/
  out : Text
  /-- Warnings and errors. -/
  err : Text
  deriving DecidableEq, Repr

namespace Streams

/-- Streams on which nothing is printed. -/
def silent : Streams := ⟨[], []⟩

/-- The streams of a run and of another one after it. -/
protected def append (a b : Streams) : Streams := ⟨a.out ++ b.out, a.err ++ b.err⟩

instance : Append Streams := ⟨Streams.append⟩

@[simp] theorem out_append (a b : Streams) : (a ++ b).out = a.out ++ b.out := rfl

@[simp] theorem err_append (a b : Streams) : (a ++ b).err = a.err ++ b.err := rfl

@[simp] theorem silent_append (a : Streams) : silent ++ a = a := rfl

/-- The texts that streams in byte form are read as. -/
def decode (a : Streams) : Streams := ⟨a.out.decode, a.err.decode⟩

end Streams

end NodeClasses
