import NodeClasses.Shell.Builtin.Basic

/-!
# The options of the shell

Options are set and cleared by letters or by long names.
-/

namespace NodeClasses.Shell.Builtin
set_option autoImplicit false

open Text

/-- The long names of options. -/
def optionNames : List (Text × Char) :=
  [("errexit", 'e'), ("noglob", 'f'), ("noexec", 'n'), ("stdin", 's'), ("xtrace", 'x'),
    ("verbose", 'v'), ("noclobber", 'C'), ("allexport", 'a'), ("nounset", 'u')]

/-- Sets an option or clears it. -/
def setOption (letter : Char) (isOn : Bool) : ShellM Unit :=
  modify fun s =>
    let others := s.options.filter fun c => c != letter
    { s with options := if isOn = true then others ++ [letter] else others }

/-- Sets the options that arguments name. The result is what follows them, if anything does. -/
def readOptions : List Text → ShellM (Option (List Text))
  | [] => return none
  | ['-', '-'] :: rest => return some rest
  | ['-'] :: rest => return if rest.isEmpty then none else some rest
  | (sign :: c :: letters) :: rest => do
    if sign = '-' ∨ sign = '+' then
      let isOn := sign == '-'
      if c = 'o' ∧ letters = [] then
        match rest with
        | [] => return none
        | name :: rest =>
          match optionNames.lookup name with
          | some letter => do
            setOption letter isOn
            readOptions rest
          | none => fail ("Illegal option -o " ++ name)
      else do
        for letter in c :: letters do
          if optionNames.any fun o => o.2 == letter then setOption letter isOn
          else fail ("Illegal option -" ++ [letter])
        readOptions rest
    else return some ((sign :: c :: letters) :: rest)
  | t :: rest => return some (t :: rest)

/-- Sets options and arguments. -/
def set : Builtin := fun _ _ words => do
  if let some arguments ← readOptions words then
    modify fun s => { s with arguments := arguments }
  return 0

end NodeClasses.Shell.Builtin
