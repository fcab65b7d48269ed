import NodeClasses.CodeUnit
import NodeClasses.Family.Clash
import NodeClasses.Store.Path

/-!
# Jobs

A table says what a unit is made of: the includes and the families. A job is a table and the base
name of the two files that its unit is written to. The source file includes its header by the file
name of the base name.
-/

namespace NodeClasses
set_option autoImplicit false

/-- The includes and the families of a unit. -/
structure Table where
  /-- What the header includes, with delimiters, like `<memory>`. -/
  includes : List Text
  /-- The families, in the order in which they depend on each other. -/
  families : List Family

/-- A table and where its code goes. -/
structure Job where
  /-- The path of the two files, without their endings. -/
  baseName : Text
  /-- What is generated. -/
  table : Table

/-- The paths of a header and of the source file beside it. -/
structure FilePair where
  header : Text
  source : Text
  deriving DecidableEq, Repr

/-- The ending of a source file's name. -/
def sourceEnding : Text := ".cpp"

namespace Table

/-- The unit of the table, or its first entry that is no field. -/
def code (t : Table) (stem : Text) : Except MalformedEntry CodeUnit :=
  (CodeUnit.start stem t.includes).pushAll t.families

/-- The first type that two of the families declare. -/
def clash? (t : Table) : Option SchemaError := Family.clash? t.families

end Table

namespace Job

/-- The name by which the source file includes its header, without the ending. -/
def stem (j : Job) : Text := Path.fileName j.baseName

/-- The paths of the two files, for a job that runs in the given directory. -/
def files (dir : Text) (j : Job) : FilePair where
  header := Path.join dir (j.baseName ++ CodeUnit.headerEnding)
  source := Path.join dir (j.baseName ++ sourceEnding)

/-- The texts of the two files. -/
def code (j : Job) : Except MalformedEntry CodeUnit := j.table.code j.stem

end Job

end NodeClasses
