import NodeClasses.Hierarchy.Source

/-!
# Code units

A code unit is the text of a header and of the source file beside it. A unit is started with its
includes and then grows by one family after another; a family that cannot be read leaves it as it
was. `pushAll_append` says that a unit is the log of the families pushed onto it.
-/

namespace NodeClasses
set_option autoImplicit false

open Text

/-- The texts of a header and of the source file that goes with it. -/
structure CodeUnit where
  header : Text
  source : Text
  deriving DecidableEq, Repr

/-- The code of a hierarchy, without includes. -/
def Hierarchy.code (h : Hierarchy) : CodeUnit where
  header := ofLines h.headerLines
  source := ofLines h.sourceLines

/-- The code of a family, without includes, or the first of its entries that is no field. -/
def Family.code (f : Family) : Except MalformedEntry CodeUnit :=
  (Hierarchy.ofFamily f).map Hierarchy.code

namespace CodeUnit

/-- What the header includes for the code itself. -/
def ownInclude : Text := "<utility>"

/-- Includes a target, which is written with its delimiters. -/
def includeLine (target : Text) : Text := "#include " ++ target

/-- The lines that include the given targets. `<utility>` comes first and is not repeated. -/
def includeLines (includes : List Text) : List Text :=
  (ownInclude :: includes.filter (· ≠ ownInclude)).map includeLine

/-- The lines before the includes of a header. -/
def headerOpening : List Text := ["#pragma once", ""]

/-- The ending of a header's file name. -/
def headerEnding : Text := ".h"

/-- A unit without families, whose source file includes the header named `stem`. -/
def start (stem : Text) (includes : List Text) : CodeUnit where
  header := ofLines (headerOpening ++ includeLines includes ++ [[]])
  source := ofLines ["#include \"" ++ stem ++ headerEnding ++ "\"", ""]

/-- One unit's texts followed by another's. -/
def append (u v : CodeUnit) : CodeUnit := ⟨u.header ++ v.header, u.source ++ v.source⟩

instance : Append CodeUnit := ⟨append⟩

@[simp] theorem header_append (u v : CodeUnit) : (u ++ v).header = u.header ++ v.header := rfl

@[simp] theorem source_append (u v : CodeUnit) : (u ++ v).source = u.source ++ v.source := rfl

theorem append_assoc (u v w : CodeUnit) : u ++ v ++ w = u ++ (v ++ w) := by
  show CodeUnit.mk _ _ = CodeUnit.mk _ _
  simp

/-- The unit with the code of one more family. -/
def push (u : CodeUnit) (f : Family) : Except MalformedEntry CodeUnit := f.code.map (u ++ ·)

/-- The unit with the code of all the families, or the first entry that is no field. -/
def pushAll (u : CodeUnit) (fs : List Family) : Except MalformedEntry CodeUnit := fs.foldlM push u

/-- The unit after an attempt to push a family, and what came of it. -/
def tryPush (u : CodeUnit) (f : Family) : CodeUnit × Option MalformedEntry :=
  match u.push f with
  | .ok grown => (grown, none)
  | .error e => (u, some e)

@[simp] theorem pushAll_nil (u : CodeUnit) : u.pushAll [] = .ok u := rfl

theorem pushAll_cons (u : CodeUnit) (f : Family) (fs : List Family) :
    u.pushAll (f :: fs) =
      match u.push f with
      | .ok grown => grown.pushAll fs
      | .error e => .error e := by
  simp only [pushAll, List.foldlM_cons]
  cases u.push f <;> rfl

/-- Pushing more families goes on from the unit that the first ones gave. -/
theorem pushAll_append (u : CodeUnit) (fs gs : List Family) :
    u.pushAll (fs ++ gs) =
      match u.pushAll fs with
      | .ok grown => grown.pushAll gs
      | .error e => .error e := by
  simp only [pushAll, List.foldlM_append]
  cases List.foldlM push u fs <;> rfl

/-- A failed attempt leaves the unit as it was. -/
theorem tryPush_of_error {u : CodeUnit} {f : Family} {e : MalformedEntry} (h : f.code = .error e) :
    u.tryPush f = (u, some e) := by
  simp [tryPush, push, h, Except.map]

theorem tryPush_of_ok {u v : CodeUnit} {f : Family} (h : f.code = .ok v) :
    u.tryPush f = (u ++ v, none) := by
  simp [tryPush, push, h, Except.map]

end CodeUnit

end NodeClasses
