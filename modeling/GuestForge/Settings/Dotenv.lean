import GuestForge.Text.Blank
import GuestForge.Text.Lines
set_option autoImplicit false

/-!
# Variables from a `.env` file

A line binds a name to a value, `export` in front being ignored; a name without an equals sign is bound to
nothing. A value stands in single quotes, in double quotes with escapes, or bare up to a comment; quoted ones may
run over several lines. A line that is none of this is skipped. Values may refer to variables as `$` and a name
in braces, with a default behind `:-`.
-/
namespace GuestForge.Dotenv
open Text.Blank (isBlank trim)

def withoutMark : List Char → List Char
  | '\ufeff' :: rest => rest
  | text => text

def isInlineBlank (c : Char) : Bool := isBlank c && c != '\n'

def skipInline (text : List Char) : List Char := text.dropWhile isInlineBlank

def nextLine (text : List Char) : List Char := (text.dropWhile (· ≠ '\n')).drop 1

def skipExport (text : List Char) : List Char :=
  let rest := text.drop 6
  if "export".toList.isPrefixOf text ∧ rest.head?.any isInlineBlank then skipInline rest else text

def readQuoted (quote : Char) : List Char → Option (List Char × List Char)
  | [] => none
  | [c] => if c = quote then some ([], []) else none
  | c :: d :: rest =>
    if c = quote then some ([], d :: rest)
    else if c = '\\' then (readQuoted quote rest).map fun (inside, rest) => (c :: d :: inside, rest)
    else (readQuoted quote (d :: rest)).map fun (inside, rest) => (c :: inside, rest)

def singleEscape? (c : Char) : Option Char := if c = '\\' ∨ c = '\'' then some c else none

def doubleEscape? (c : Char) : Option Char :=
  if c = '\\' ∨ c = '\'' ∨ c = '"' then some c
  else if c = 'a' then some '\x07'
  else if c = 'b' then some '\x08'
  else if c = 'f' then some '\x0c'
  else if c = 'n' then some '\n'
  else if c = 'r' then some '\r'
  else if c = 't' then some '\t'
  else if c = 'v' then some '\x0b'
  else none

def unescape (escape? : Char → Option Char) : List Char → List Char
  | '\\' :: c :: rest => match escape? c with
    | some d => d :: unescape escape? rest
    | none => '\\' :: unescape escape? (c :: rest)
  | c :: rest => c :: unescape escape? rest
  | [] => []

def beforeComment : List Char → List Char
  | c :: d :: rest => if isBlank c ∧ d = '#' then [] else c :: beforeComment (d :: rest)
  | rest => rest

def readValue (text : List Char) : Option (List Char × List Char) :=
  match skipInline text with
  | '\'' :: rest => (readQuoted '\'' rest).map fun (inside, rest) => (unescape singleEscape? inside, rest)
  | '"' :: rest => (readQuoted '"' rest).map fun (inside, rest) => (unescape doubleEscape? inside, rest)
  | _ => some (trim (beforeComment (text.takeWhile (· ≠ '\n'))), text.dropWhile (· ≠ '\n'))

def readName (text : List Char) : Option (Option (List Char) × List Char) :=
  let isPlain := fun c => c ≠ '=' && c ≠ '#' && !isBlank c
  match text with
  | '#' :: _ => some (none, text)
  | '\'' :: rest =>
    match rest.takeWhile (· ≠ '\''), rest.dropWhile (· ≠ '\'') with
    | _ :: _, _ :: after => some (some (rest.takeWhile (· ≠ '\'')), after)
    | _, _ => none
  | _ => if text.head?.any isPlain then some (some (text.takeWhile isPlain), text.dropWhile isPlain) else none

def endLine (text : List Char) : Option (List Char) :=
  match skipInline text with
  | [] => some []
  | '#' :: _ => some (nextLine text)
  | '\n' :: rest => some rest
  | _ => none

abbrev Binding := String × Option String

/-- Reads a binding at the head of a text without blanks before it; none if the line is skipped. Where reading
fails, the text goes on behind the line that it got to. -/
def readBinding (text : List Char) : Option Binding × List Char :=
  let text := skipExport text
  match readName text with
  | none => (none, nextLine text)
  | some (name, rest) =>
    let finish (value : Option (List Char)) (rest : List Char) : Option Binding × List Char :=
      match endLine rest with
      | some rest => (name.map fun name => (String.ofList name, value.map String.ofList), rest)
      | none => (none, nextLine rest)
    match skipInline rest with
    | '=' :: rest =>
      match readValue rest with
      | some (value, rest) => finish (some value) rest
      | none => (none, nextLine rest)
    | rest => finish none rest

/-- Reads all bindings. Each takes a character or more, so `fuel` of the length of the text is enough. -/
def readBindings : (fuel : Nat) → List Char → List Binding
  | 0, _ => []
  | fuel + 1, text =>
    match text.dropWhile isBlank with
    | [] => []
    | text =>
      let (binding, rest) := readBinding text
      binding.toList ++ readBindings fuel rest

def reference? (text : List Char) : Option (List Char × Option (List Char) × Nat) :=
  let name := text.takeWhile fun c => c ≠ '\x7d' ∧ c ≠ ':'
  match text.drop name.length with
  | '\x7d' :: _ => some (name, none, name.length + 1)
  | ':' :: '-' :: rest =>
    let absent := rest.takeWhile (· ≠ '\x7d')
    if absent.length < rest.length then some (name, some absent, name.length + absent.length + 3) else none
  | _ => none

/-- Replaces references by their values; `skipped` characters belong to one already replaced. -/
def expand (value? : String → Option (Option String)) : (skipped : Nat) → List Char → List Char
  | _, [] => []
  | skipped + 1, _ :: rest => expand value? skipped rest
  | 0, c :: rest =>
    let reference := if c = '$' ∧ rest.head? = some '\x7b' then reference? (rest.drop 1) else none
    match reference with
    | none => c :: expand value? 0 rest
    | some (name, absent, length) =>
      let value := match value? (String.ofList name) with
        | some value => (value.getD "").toList
        | none => absent.getD []
      value ++ expand value? (length + 1) rest

def bind (bindings : List Binding) (name : String) (value : Option String) : List Binding :=
  if bindings.any (·.1 == name) then
    bindings.map fun binding => if binding.1 == name then (name, value) else binding
  else bindings ++ [(name, value)]

/-- The bindings of a file in the order of their first occurrence, each with its last value. References see the
bindings before them and then the environment. -/
def parse (environment : List (String × String)) (text : String) : List Binding :=
  let chars := Text.normalizeLines (withoutMark text.toList)
  (readBindings (chars.length + 1) chars).foldl
    (fun bindings (name, value) =>
      let value? := fun name => match bindings.lookup name with
        | some value => some value
        | none => (environment.lookup name).map some
      bind bindings name (value.map fun value => String.ofList (expand value? 0 value.toList)))
    []

end GuestForge.Dotenv
