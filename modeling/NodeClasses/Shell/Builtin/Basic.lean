import NodeClasses.Shell.Script
import NodeClasses.Shell.Utility.Basic

/-!
# Commands of the shell itself

These commands change the state of the shell, or are here so that no process need be started for
them. Each gets its arguments and gives a status. The letters of their options stand in front of
the operands, and one that is not known is an error of the shell: `withLetters`.
-/

namespace NodeClasses.Shell
set_option autoImplicit false

open Text

/-- A command of the shell itself. Its status may be tested. -/
abbrev Builtin := Evaluator → Bool → List Text → ShellM Nat

namespace Builtin

/-- The letters of a word, each with its argument, and if the next word is used up as well. -/
def wordLetters (known : Text) (next : Option Text) :
    Text → Except Text (List (Char × Text) × Bool)
  | [] => .ok ([], false)
  | c :: rest =>
    match kindIn? c known, rest, next with
    | none, _, _ => .error ("Illegal option -" ++ [c])
    | some .plain, _, _ =>
      (wordLetters known next rest).map fun (given, usesNext) => ((c, []) :: given, usesNext)
    | _, [], none => .error ("No arg for -" ++ [c] ++ " option")
    | _, [], some t => .ok ([(c, t)], true)
    | _, _, _ => .ok ([(c, rest)], false)

/-- The letters in front of the operands. A word that a letter has used is left out. -/
def letters (known : Text) : Bool → List Text → Except Text Settings
  | _, [] => .ok ⟨[], []⟩
  | true, _ :: rest => letters known false rest
  | false, t :: rest =>
    match t with
    | ['-', '-'] => .ok ⟨[], rest⟩
    | '-' :: c :: more =>
      match wordLetters known rest.head? (c :: more) with
      | .error message => .error message
      | .ok (given, usesNext) =>
        (letters known usesNext rest).map fun o => ⟨given ++ o.given, o.operands⟩
    | _ => .ok ⟨[], t :: rest⟩

/-- Runs a command with its letters read. -/
def withLetters (known : Text) (words : List Text) (run : Settings → ShellM Nat) : ShellM Nat :=
  match letters known false words with
  | .error message => fail message
  | .ok o => run o

/-- Does the path lead to the working directory? -/
def leadsHere (s : Store) (path : Text) : Bool :=
  s.here?.isSome && (s.locate path).toOption == s.here?

end Builtin

end NodeClasses.Shell
