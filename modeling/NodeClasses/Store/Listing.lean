import NodeClasses.Store.Locate
import NodeClasses.Text.Bytes

/-!
# Listing a store

`Store.listing` shows what lies below the working directory, each thing under its relative path
and all sorted by path. Paths are compared byte by byte.
-/

namespace NodeClasses
set_option autoImplicit false

/-- Does the first text come before the second in the order of code points, or are they equal? -/
def Text.precedes : Text → Text → Bool
  | [], _ => true
  | _ :: _, [] => false
  | c :: s, d :: t => decide (c.toNat < d.toNat) || (c == d && precedes s t)

namespace Store

/-- What stands right below a location, by name, in the order in which it was made. -/
def members (s : Store) (here : Location) : List (Text × Entry) :=
  s.slots.filterMap fun p =>
    match here.isPrefixOf? p.1 with
    | some [name] => some (name, s.seen p.2)
    | _ => none

/-- Links to directories are followed so deep. -/
def listingDepth : Nat := 8

/-- What lies below a location, with the way to each thing and the text of a file. A link shows what
it leads to, down to the given depth, but not a directory that it lies in. -/
def below (s : Store) : Nat → Location → List (Location × Option Text)
  | 0, _ => []
  | n + 1, above =>
    s.slots.flatMap fun p =>
      match above.isPrefixOf? p.1 with
      | some (first :: rest) =>
        let way := first :: rest
        match s.seen p.2 with
        | .file text _ => [(way, some text)]
        | .directory => [(way, none)]
        | .link _ =>
          match s.locateFrom true linkLimit p.1.dropLast [p.1.getLastD []] with
          | .error _ => [(way, some [])]
          | .ok there =>
            match s.get? there with
            | some (.file text _) => [(way, some text)]
            | some .directory =>
              let inside := if there.isPrefixOf p.1 = true then [] else s.below n there
              (way, none) :: inside.map fun q => (way ++ q.1, q.2)
            | _ => [(way, some [])]
      | _ => []

/-- What lies below the working directory, sorted by path. -/
def tree (s : Store) : List (Text × Option Text) :=
  ((s.here?.map (s.below listingDepth)).getD [] |>.map fun p =>
    (List.intercalate ['/'] p.1, p.2)).mergeSort fun a b => Text.precedes a.1 b.1

/-- What lies below the working directory, as it is read. -/
def listing (s : Store) : List (Text × Option Text) :=
  s.tree.map fun p => (Text.decode p.1, p.2.map Text.decode)

end Store

end NodeClasses
