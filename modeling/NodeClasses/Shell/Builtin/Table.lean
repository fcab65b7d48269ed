import NodeClasses.Shell.Builtin.Flow
import NodeClasses.Shell.Builtin.Options
import NodeClasses.Shell.Builtin.Output
import NodeClasses.Shell.Builtin.Place
import NodeClasses.Shell.Builtin.Signals
import NodeClasses.Shell.Builtin.Variables

/-!
# The commands of the shell by name
-/

namespace NodeClasses.Shell.Builtin
set_option autoImplicit false

open Text

/-- The commands of the shell itself, apart from those that run others. A mask for the permission
bits of new files is taken without effect. -/
def table : List (Text × Builtin) :=
  [(":", succeed), ("true", succeed), ("false", refuse), ("echo", echo), ("printf", printf),
    ("test", test), ("[", bracket), ("break", leave), ("continue", next), ("exit", exit),
    ("return", back), ("eval", eval), (".", source), ("pwd", pwd), ("cd", cd), ("chdir", cd),
    ("export", exportAll), ("readonly", fixAll), ("local", localAll), ("unset", unset),
    ("shift", shift), ("read", read), ("set", set), ("trap", trap), ("wait", wait),
    ("kill", kill), ("umask", succeed)]

/-- The command of the shell itself with the given name. -/
def ofName? (name : Text) : Option Builtin := table.lookup name

end NodeClasses.Shell.Builtin
