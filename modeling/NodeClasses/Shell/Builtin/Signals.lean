import NodeClasses.Shell.Builtin.Basic

/-!
# The end of a shell

A shell may be told what to run when it ends, and it may be ended by a signal, which it sends
itself. A command in the background has run to its end before the next one starts.
-/

namespace NodeClasses.Shell.Builtin
set_option autoImplicit false

open Text

/-- The names of the signals by number. The exit of a shell stands in the first place. -/
def signalNames : List Text :=
  pieces (· == ' ') <|
    "EXIT HUP INT QUIT ILL TRAP ABRT BUS FPE KILL USR1 SEGV USR2 PIPE ALRM TERM STKFLT CHLD " ++
      "CONT STOP TSTP TTIN TTOU URG XCPU XFSZ VTALRM PROF WINCH IO PWR SYS"

/-- The signal with the given name or number. Case makes no difference. -/
def signalOf? (t : Text) : Option Nat :=
  if t ≠ [] ∧ t.all Char.isDigit = true then
    if numberOf t < signalNames.length then some (numberOf t) else none
  else signalNames.findIdx? fun name => name == t.map Char.toUpper

/-- Says what is to be done on exit: an action, or nothing. Signals are not waited for. -/
def setTraps (action : Option Text) : List Text → ShellM Nat
  | [] => return 0
  | t :: rest => do
    match signalOf? t with
    | none => do
      complain "trap" (t ++ ": bad trap")
      return 1
    | some signal => do
      if signal = 0 then modify fun s => { s with onExit := action }
      setTraps action rest

/-- Says what is to be done on exit. -/
def trap : Builtin := fun _ _ words => withLetters [] words fun o => do
  match o.operands with
  | [] => return 0
  | [t] => setTraps none [t]
  | action :: conditions =>
    if action.all Char.isDigit = true ∧ (signalOf? action).isSome = true then
      setTraps none (action :: conditions)
    else setTraps (if action = "-" then none else some action) conditions

/-- Waits for commands in the background. The status is that of the last one, if it is asked for. -/
def wait : Builtin := fun _ _ words => do
  let latest := (← get).latest
  match words.getLast? with
  | none => return 0
  | some t => do
    let n ← checkedNumber t
    return ((latest.filter fun p => p.1 == n).map Prod.snd).getD 127

/-- Sends a signal to processes. There are none to be found but the shell itself. -/
def kill : Builtin := fun _ _ words => do
  let (signal, names) ← match words with
    | ['-', 's'] :: t :: names => pure (signalOf? t, names)
    | ('-' :: t) :: names => pure (signalOf? t, names)
    | names => pure (signalOf? "TERM", names)
  match signal with
  | none => fail "invalid signal number or name"
  | some signal =>
    greatestStatus (fun t => do
      if (← checkedNumber t) = (← get).process then
        if signal = 0 then return 0
        setStatus (128 + signal)
        throw .killed
      else do
        warn "No such process\n"
        return 1) names

end NodeClasses.Shell.Builtin
