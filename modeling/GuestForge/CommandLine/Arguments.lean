set_option autoImplicit false

/-!
# Arguments of a command

Options have a long name behind two hyphens and may have a letter behind one. A value follows its option as the
next argument, whatever that looks like, or in the same one, behind an equals sign or the letter; letters of
options without a value may be joined. After two hyphens alone, options end.
-/
namespace GuestForge.CommandLine

structure OptionSpec where
  key : String
  long : List String
  letter : Option Char := none
  takesValue : Bool := true

structure Given where
  key : String
  value : String
  deriving DecidableEq, Repr

abbrev Reading := Option (List Given × Option String)

/-- Reads joined letters; the first that takes a value takes the letters behind it. -/
def readLetters (specs : List OptionSpec) : List Char → Reading
  | [] => some ([], none)
  | c :: rest =>
    match specs.find? (·.letter == some c) with
    | none => none
    | some spec =>
      if spec.takesValue then
        if rest = [] then some ([], some spec.key) else some ([⟨spec.key, String.ofList rest⟩], none)
      else (readLetters specs rest).map fun (given, waiting) => (⟨spec.key, ""⟩ :: given, waiting)

def readOption (specs : List OptionSpec) (argument : List Char) : Reading :=
  let name := String.ofList (argument.takeWhile (· ≠ '='))
  let explicit := (argument.dropWhile (· ≠ '=')).tail?
  match specs.find? (·.long.contains name), explicit with
  | some spec, some value => if spec.takesValue then some ([⟨spec.key, String.ofList value⟩], none) else none
  | some spec, none => if spec.takesValue then some ([], some spec.key) else some ([⟨spec.key, ""⟩], none)
  | none, _ => if ['-', '-'].isPrefixOf argument then none else readLetters specs (argument.drop 1)

/-- The options given and the other arguments, or none if an option is unknown, lacks its value or has one that
it does not take. Unless options may be `mixed` with other arguments, the first of those ends them. -/
def readArguments (specs : List OptionSpec) (mixed : Bool) : List String → Option (List Given × List String)
  | [] => some ([], [])
  | [argument] =>
    if argument = "--" then some ([], [])
    else if argument.toList.head? = some '-' ∧ argument ≠ "-" then
      match readOption specs argument.toList with
      | some (given, none) => some (given, [])
      | _ => none
    else some ([], [argument])
  | argument :: next :: rest =>
    if argument = "--" then some ([], next :: rest)
    else if argument.toList.head? = some '-' ∧ argument ≠ "-" then
      match readOption specs argument.toList with
      | none => none
      | some (given, none) =>
        (readArguments specs mixed (next :: rest)).map fun (more, others) => (given ++ more, others)
      | some (given, some key) =>
        (readArguments specs mixed rest).map fun (more, others) => (given ++ ⟨key, next⟩ :: more, others)
    else if mixed then
      (readArguments specs mixed (next :: rest)).map fun (given, others) => (given, argument :: others)
    else some ([], argument :: next :: rest)

def valuesOf (given : List Given) (key : String) : List String :=
  (given.filter (·.key == key)).map Given.value

def valueOf? (given : List Given) (key : String) : Option String := (valuesOf given key).getLast?

def isGiven (given : List Given) (key : String) : Bool := given.any (·.key == key)

end GuestForge.CommandLine
