import GuestForge.Text.Literal.Parser
import GuestForge.Text.Literal.Texts
set_option autoImplicit false

/-!
# Atoms and displays

Names, numbers, texts, and what stands in parentheses or braces: groups, tuples, sets, dictionaries and
comprehensions. Each rule has the alternatives that explain what is wrong where it cannot be read. Such an alternative
is mostly tried only once the text has turned out to be no expression.
-/
namespace GuestForge.Text.Literal
open GuestForge.Text.Literal.Parser

def nameText : Parser String := do return (← kind .name).text

def constantWord : Parser Token :=
  satisfying fun token => token.kind == .keyword && ["True", "False", "None"].contains token.text

def assignment (call : Calls) : Parser Tree := do
  let _ ← kind .name
  let _ ← operator ":="
  let _ ← call .expression
  pure (.other "named expression")

def unassigned (call : Calls) : Parser Tree := do
  let tree ← call .expression
  unlessAhead (operator ":=")
  pure tree

def starredExpression (call : Calls) : Parser Tree := do
  let _ ← operator "*"
  match ← attempt (call .expression) with
  | some tree => pure (.starred tree)
  | none => giveUp .nothingStarred

def starredBitwise (call : Calls) : Parser Tree := do
  let _ ← operator "*"
  return .starred (← call .bitwise)

def targets (call : Calls) : Parser Tree := do
  let items ← separated (call .target)
  let comma ← attempt (operator ",")
  match items, comma with
  | [item], none => pure item
  | items, _ => pure (.tuple items)

def starExpressions (call : Calls) : Parser Tree := do
  let items ← separated (first [starredBitwise call, call .expression])
  let comma ← attempt (operator ",")
  match items, comma with
  | [item], none => pure item
  | items, _ => pure (.tuple items)

def forClause (call : Calls) : Parser Unit := do
  let loop := do
    let _ ← attempt (keyword "async")
    keyword "for"
  let head ← attempt do
    let _ ← loop
    let _ ← targets call
    keyword "in"
  match head with
  | some _ =>
    let _ ← call .disjunction
    let _ ← many do
      let _ ← keyword "if"
      call .disjunction
  | none =>
    explain [do
      let _ ← loop
      return (← starExpressions call).notTarget?.map fun tree => .assigned tree.description]

def forClauses (call : Calls) : Parser Unit := do
  forClause call
  let _ ← many (forClause call)

def starNamed (call : Calls) : Parser Tree := first [starredBitwise call, call .named]

def yielded (call : Calls) : Parser Tree := do
  let _ ← keyword "yield"
  let source ← attempt do
    let _ ← keyword "from"
    call .expression
  if source.isNone then let _ ← attempt (starExpressions call)
  pure (.other "yield expression")

def group (call : Calls) : Parser Tree := first [
  do
    let _ ← operator "("
    let tree ← first [yielded call, call .named]
    let _ ← operator ")"
    pure tree,
  explain [
    do
      let _ ← operator "("
      let _ ← starredExpression call
      let _ ← operator ")"
      pure (some .starredGroup),
    do
      let _ ← operator "("
      let _ ← operator "**"
      let _ ← call .expression
      let _ ← operator ")"
      pure (some .doubleStarredGroup)]]

def tuple (call : Calls) : Parser Tree := do
  let _ ← operator "("
  let items ← attempt do
    let head ← starNamed call
    let _ ← operator ","
    return head :: ((← attempt (listed (starNamed call))).getD [])
  let _ ← operator ")"
  pure (.tuple (items.getD []))

def wrongComprehension {α : Type} (call : Calls) : Parser α := explain [
  do
    let _ ← operatorIn ["[", "(", "\x7b"]
    let _ ← starredExpression call
    forClauses call
    pure (some .unpackedComprehension),
  do
    let _ ← operatorIn ["[", "\x7b"]
    let _ ← starNamed call
    let _ ← operator ","
    let _ ← listed (starNamed call)
    forClauses call
    pure (some .unparenthesizedTarget),
  do
    let _ ← operatorIn ["[", "\x7b"]
    let _ ← starNamed call
    let _ ← operator ","
    forClauses call
    pure (some .unparenthesizedTarget)]

def generator (call : Calls) : Parser Tree := first [
  do
    let _ ← operator "("
    let _ ← first [assignment call, unassigned call]
    forClauses call
    let _ ← operator ")"
    pure (.other "generator expression"),
  wrongComprehension call]

def wrongNamed {α : Type} (call : Calls) : Parser α :=
  let equality : Parser Token := operatorIn ["=", ":="]
  explain [
    do
      let tree ← call .expression
      let _ ← operator ":="
      let _ ← call .expression
      pure (some (.namedAssignment tree.description)),
    do
      let _ ← kind .name
      let _ ← operator "="
      let _ ← call .bitwise
      unlessAhead equality
      pure (some .meantEquality),
    do
      unlessAhead (first [tuple call, generator call, do return .constant (← constantWord).text])
      let tree ← call .bitwise
      let _ ← operator "="
      let _ ← call .bitwise
      unlessAhead equality
      pure (some (.assignedHere tree.description))]

def named (call : Calls) : Parser Tree := first [
  assignment call,
  do if (← get).explains then call .wrongNamed else failure,
  unassigned call]

def pair (call : Calls) : Parser (List Tree) := do
  let key ← call .expression
  let _ ← operator ":"
  return [key, ← call .expression]

def entry (call : Calls) : Parser (List Tree) := first [
  do
    let _ ← operator "**"
    return [.absent, ← call .bitwise],
  pair call]

def wrongValue (call : Calls) : List (Parser (Option SyntaxError)) := [
  do
    let _ ← call .expression
    let _ ← operator ":"
    let _ ← starredBitwise call
    pure (some .starredValue),
  do
    let _ ← call .expression
    let _ ← operator ":"
    if ← ahead (operatorIn ["\x7d", ","]) then pure (some .missingValue) else failure]

def wrongEntries {α : Type} (call : Calls) : Parser α := refuse (
  (do
    let _ ← separated (entry call)
    let _ ← operator ","
    refuse (
      (do
        let _ ← call .expression
        unlessAhead (operator ":")
        pure (some .missingColon)) :: wrongValue call)) :: wrongValue call)

def dictionary (call : Calls) : Parser Tree := first [
  do
    let _ ← operator "\x7b"
    let entries ← attempt (listed (entry call))
    let _ ← operator "\x7d"
    pure (.dictionary (entries.getD []).flatten),
  do
    let _ ← operator "\x7b"
    wrongEntries call]

def setDisplay (call : Calls) : Parser Tree := do
  let _ ← operator "\x7b"
  let items ← listed (starNamed call)
  let _ ← operator "\x7d"
  pure (.set items)

def dictionaryComprehension (call : Calls) : Parser Tree := first [
  do
    let _ ← operator "\x7b"
    let _ ← pair call
    forClauses call
    let _ ← operator "\x7d"
    pure (.other "dict comprehension"),
  explain [do
    let _ ← operator "\x7b"
    let _ ← operator "**"
    let _ ← call .bitwise
    forClauses call
    let _ ← operator "\x7d"
    pure (some .unpackedDictionary)]]

def setComprehension (call : Calls) : Parser Tree := first [
  do
    let _ ← operator "\x7b"
    let _ ← call .named
    forClauses call
    let _ ← operator "\x7d"
    pure (.other "set comprehension"),
  wrongComprehension call]

def digitLimit : Nat := 4300

def number : Parser Tree := do
  let text := (← kind .number).text.toList
  let isWhole := text.all fun c => c.isDigit ∨ c = '_'
  let count := text.countP Char.isDigit
  if isWhole ∧ digitLimit < count then giveUp (.tooManyDigits count)
  pure (.number (text.getLast?.any fun c => c = 'j' ∨ c = 'J'))

def texts : Parser Tree := do
  let head := QuotedText.ofToken (← kind .string)
  let quoted := head :: (← many do return QuotedText.ofToken (← kind .string))
  match checkTexts (← read).checkInside head.isBytes quoted with
  | .error error => giveUp error
  | .ok () =>
    if quoted.any QuotedText.isFormatted then pure (.other "f-string expression")
    else pure (.constant "literal")

def atom (call : Calls) : Parser Tree := first [
  do return .name (← nameText),
  do return .constant (← constantWord).text,
  texts,
  number,
  tuple call, group call, generator call,
  dictionary call, setDisplay call, dictionaryComprehension call, setComprehension call,
  do
    let _ ← operator "..."
    pure (.constant "ellipsis")]

def trailer (call : Calls) : Parser Tree := first [
  do
    let _ ← operator "."
    let _ ← kind .name
    pure (.other "attribute"),
  do
    let _ ← generator call
    pure (.other "function call"),
  do
    let _ ← operator "("
    let arguments ← attempt (call .arguments)
    let _ ← operator ")"
    pure (arguments.getD .emptySet)]

def primary (call : Calls) : Parser Tree := do
  let head ← atom call
  match head, ← many (trailer call) with
  | head, [] => pure head
  | .name "set", [.emptySet] => pure .emptySet
  | _, trailers =>
    match trailers.getLast? with
    | some (.other description) => pure (.other description)
    | _ => pure (.other "function call")

end GuestForge.Text.Literal
