import NodeClasses.Shell.Process
import NodeClasses.Store.Listing

/-!
# Machines

A machine is a store with directories and native programs in their usual places, so that scripts
find what they call.
-/

namespace NodeClasses.Machine
set_option autoImplicit false

/-- The directory that holds the programs. -/
def programDirectory : Location := ["usr", "bin"]

/-- The directories of a machine, each behind those above it. -/
def directories : List Location :=
  [[ "dev"], [ "etc"], [ "home"], [ "opt"], [ "proc"], [ "proc", "self"],
    [ "proc", "self", "fd"], [ "root"], [ "tmp"], [ "usr"], [ "usr", "bin"], [ "usr", "local"],
    [ "usr", "local", "bin"], [ "usr", "local", "sbin"], [ "usr", "sbin"], [ "var"]]

/-- The links of a machine, each with the path that it stands for. -/
def links : List (Location × Text) :=
  [([ "bin"], "usr/bin"), ([ "sbin"], "usr/sbin"), ([ "usr", "bin", "sh"], "dash"),
    ([ "dev", "fd"], "/proc/self/fd"), ([ "dev", "stdin"], "/proc/self/fd/0"),
    ([ "dev", "stdout"], "/proc/self/fd/1"), ([ "dev", "stderr"], "/proc/self/fd/2")]

/-- Where the programs of a machine are looked for. -/
def searchPath : Text := Shell.shellSearchPath

/-- The names of the native programs. -/
def programs : List Text := Shell.shellNames ++ Shell.utilities.map Prod.fst

/-- The permission bits of a program. -/
def programMode : Nat := 0o755

/-- The permission bits of a device. -/
def deviceMode : Nat := 0o666

/-- What a machine holds. A link stands in the place of a program of its name. -/
def entries : List (Location × Entry) :=
  directories.map (fun here => (here, .directory)) ++
  programs.map (fun name =>
    (programDirectory ++ [name], .file (Executable.native name) programMode)) ++
  links.map (fun p => (p.1, .link p.2)) ++
  (Shell.terminal :: Shell.devices.map Prod.fst).map (fun here => (here, .file [] deviceMode))

/-- The moment at which scripts find a machine: the first one of the year 2026. -/
def presentMoment : Moment := 1767225600 * 1000000000

/-- A machine with an empty working directory. What it holds besides is as old as can be. -/
def store (workingDirectory : Location) : Store :=
  let machine := (Store.blank.putAll entries).wait presentMoment
  (machine.putAll (Store.directoriesTo workingDirectory)).enter workingDirectory

end NodeClasses.Machine
