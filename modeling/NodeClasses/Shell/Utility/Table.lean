import NodeClasses.Shell.Utility.Edit
import NodeClasses.Shell.Utility.Lines
import NodeClasses.Shell.Utility.Programs
import NodeClasses.Shell.Utility.Transfer

/-!
# The utilities there are
-/

namespace NodeClasses.Shell
set_option autoImplicit false

/-- The utilities, by name. -/
def utilities : List (Text × Utility) :=
  [("cp", copyFiles), ("mv", moveFiles), ("ln", linkFiles), ("rm", removeFiles),
    ("mkdir", makeDirectory), ("ls", listNames), ("touch", touch), ("chmod", changeModes),
    ("readlink", readLink), ("basename", printSegment true), ("dirname", printSegment false),
    ("cat", concatenate), ("tee", tee), ("head", head), ("tail", tail), ("wc", count),
    ("cut", cut), ("grep", search), ("tr", translate), ("sort", sort), ("sed", edit),
    ("true", idleWith 0), ("false", idleWith 1), ("sleep", idleWith 0), ("echo", echoWords),
    ("env", environment), ("printenv", printEnvironment), ("pwd", printDirectory)]

end NodeClasses.Shell
