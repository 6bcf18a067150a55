import GuestForge.Text.Literal.Arguments
import GuestForge.Text.Literal.Parameters
set_option autoImplicit false

/-!
# Expressions

Operators by their precedence, conditional expressions and functions. `callsWithin` ties the rules together, up to a
depth of calls; `wholeText` is the rule for a text.
-/
namespace GuestForge.Text.Literal
open GuestForge.Text.Literal.Parser

def awaited (call : Calls) : Parser Tree := first [
  do
    let _ ← keyword "await"
    let _ ← call .primary
    pure (.other "await expression"),
  call .primary]

def power (call : Calls) : Parser Tree := do
  let base ← awaited call
  let exponent ← attempt do
    let _ ← operator "**"
    call .factor
  pure (if exponent.isSome then .other "expression" else base)

def factor (call : Calls) : Parser Tree := first [
  do
    let _ ← operatorIn ["+", "-"]
    return .signed (← call .factor),
  do
    let _ ← operator "~"
    let _ ← call .factor
    pure (.other "expression"),
  power call]

def bitwiseOperators : List String :=
  ["|", "^", "&", "<<", ">>", "+", "-", "*", "/", "//", "%", "@"]

def bitwise (call : Calls) : Parser Tree := do
  let head ← call .factor
  let more ← many do
    let token ← operatorIn bitwiseOperators
    return (token.text, ← call .factor)
  match more with
  | [] => pure head
  | [("+", right)] | [("-", right)] => pure (.sum head right)
  | _ => pure (.other "expression")

def comparisonOperator : Parser Bool := first [
  do
    let _ ← operatorIn ["==", "!=", "<=", "<", ">=", ">"]
    pure false,
  do
    let _ ← keyword "not"
    let _ ← keyword "in"
    pure false,
  do
    let _ ← keyword "in"
    pure true,
  do
    let _ ← keyword "is"
    let _ ← attempt (keyword "not")
    pure false]

def comparison (call : Calls) : Parser Tree := do
  let left ← call .bitwise
  let more ← many do
    let isMembership ← comparisonOperator
    let _ ← call .bitwise
    pure isMembership
  match more with
  | [] => pure left
  | isMembership :: _ => pure (.comparison left isMembership)

def inversion (call : Calls) : Parser Tree := first [
  do
    let _ ← keyword "not"
    let _ ← call .inversion
    pure (.other "expression"),
  comparison call]

def joined (call : Calls) (word : String) (operand : Rule) : Parser Tree := do
  let head ← call operand
  let more ← many do
    let _ ← keyword word
    call operand
  pure (if more.isEmpty then head else .other "expression")

def conditional (call : Calls) : Parser Tree := do
  let _ ← call .disjunction
  let _ ← keyword "if"
  let _ ← call .disjunction
  let _ ← keyword "else"
  let _ ← call .expression
  pure (.other "conditional expression")

def function (call : Calls) : Parser Tree := do
  let _ ← keyword "lambda"
  let _ ← attempt (parameters call)
  let _ ← operator ":"
  let _ ← call .expression
  pure (.other "lambda")

def plainExpression (call : Calls) : Parser Tree :=
  plainly (first [conditional call, call .disjunction, function call])

def isStatement : Tree → Bool
  | .name text => text == "print" || text == "exec"
  | _ => false

def softKeywords : List String := ["_", "case", "match"]

def wrongExpression {α : Type} (call : Calls) : Parser α := explain [
  do
    unlessAhead (first [
      do
        let _ ← kind .name
        let _ ← kind .string,
      do
        let name ← nameText
        if !softKeywords.contains name then failure])
    let left ← call .disjunction
    let _ ← call .plainExpression
    let last := (← read).scan.tokens[(← get).place - 1]?
    pure (if isStatement left ∨ last.all (·.depth == 0) then none else some .missingComma),
  do
    let _ ← call .disjunction
    let _ ← keyword "if"
    let _ ← call .disjunction
    unlessAhead (first [keyword "else", operator ":"])
    pure (some .missingElse)]

def wrongStatement {α : Type} (call : Calls) : Parser α := explain [do
  let name ← nameText
  unlessAhead (operator "(")
  let _ ← starExpressions call
  pure (if isStatement (.name name) then some (.missingCall name) else none)]

def expression (call : Calls) : Parser Tree := first [
  wrongExpression call,
  wrongStatement call,
  conditional call,
  call .disjunction,
  function call]

def target (call : Calls) : Parser Tree := first [
  do
    let _ ← operator "*"
    unlessAhead (operator "*")
    return .starred (← call .target),
  do
    match ← call .primary with
    | .other "attribute" => pure (.other "attribute")
    | _ => failure,
  do return .name (← nameText),
  do
    let _ ← operator "("
    let items ← attempt (listed (call .target))
    let _ ← operator ")"
    pure (.tuple (items.getD []))]

def step (call : Calls) : Rule → Parser Tree
  | .expression => kept .expression (expression call)
  | .plainExpression => plainExpression call
  | .named => named call
  | .wrongNamed => kept .wrongNamed (wrongNamed call)
  | .disjunction => kept .disjunction (joined call "or" .conjunction)
  | .conjunction => kept .conjunction (joined call "and" .inversion)
  | .inversion => kept .inversion (inversion call)
  | .bitwise => kept .bitwise (bitwise call)
  | .factor => kept .factor (factor call)
  | .primary => kept .primary (primary call)
  | .arguments => kept .arguments (arguments call)
  | .target => kept .target (target call)

def callsWithin : (depth : Nat) → Calls
  | 0 => fun _ => failure
  | depth + 1 => step (callsWithin depth)

def wholeText (call : Calls) : Parser Tree := do
  let items ← separated (call .expression)
  let comma ← attempt (operator ",")
  let _ ← many (kind .newline)
  let _ ← kind .finish
  match items, comma with
  | [item], none => pure item
  | items, _ => pure (.tuple items)

end GuestForge.Text.Literal
