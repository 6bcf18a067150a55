import GuestForge.Text.Literal.SyntaxError
import GuestForge.Text.Literal.Tree
set_option autoImplicit false

/-!
# Parsing with alternatives

A parser reads tokens from a place on; it fails and leaves the place as it was, or it gives up the whole text with an
error. Tokens count as seen once a parser has looked at them, so an error of scanning arises only where one gets that
far. Answers of the main rules are kept, and a rule is read only once at a place.
-/
namespace GuestForge.Text.Literal

inductive Rule where
  | expression
  | plainExpression
  | named
  | wrongNamed
  | disjunction
  | conjunction
  | inversion
  | bitwise
  | factor
  | primary
  | arguments
  | target
  deriving DecidableEq, Repr

/-- Where a parser stands, how many tokens were seen, whether the rules that explain errors are in use, and the answers
so far: a tree and the place behind it, or a failure. -/
structure Memory where
  place : Nat := 0
  seen : Nat := 0
  explains : Bool := false
  answers : List ((Rule × Nat) × Option (Tree × Nat)) := []

structure Source where
  scan : Scan
  checkInside : (line : Nat) → List Char → Except SyntaxError Unit

structure Stop where
  error : SyntaxError
  seen : Nat
  deriving DecidableEq, Repr

abbrev Parser := ReaderT Source (OptionT (StateT Memory (Except Stop)))

abbrev Calls := Rule → Parser Tree

namespace Parser
variable {α β : Type}

def giveUp (error : SyntaxError) : Parser α := do throwThe Stop ⟨error, (← get).seen⟩

def attempt (parser : Parser α) : Parser (Option α) := do
  let place := (← get).place
  let answer ← (some <$> parser) <|> pure none
  if answer.isNone then modify fun memory => { memory with place := place }
  pure answer

def first : List (Parser α) → Parser α
  | [] => failure
  | parser :: parsers => do
    match ← attempt parser with
    | some answer => pure answer
    | none => first parsers

def ahead (parser : Parser α) : Parser Bool := do
  let place := (← get).place
  let answer ← attempt parser
  modify fun memory => { memory with place := place }
  pure answer.isSome

def unlessAhead (parser : Parser α) : Parser Unit := do
  if ← ahead parser then failure

def peek : Parser Token := do
  let scan := (← read).scan
  let place := (← get).place
  match scan.tokens[place]?, scan.stop with
  | some token, _ =>
    modify fun memory => { memory with seen := max memory.seen (place + 1) }
    pure token
  | none, some error => giveUp (.scan error)
  | none, none => failure

def satisfying (condition : Token → Bool) : Parser Token := do
  let token ← peek
  if condition token then
    modify fun memory => { memory with place := memory.place + 1 }
    pure token
  else failure

def kind (kind : TokenKind) : Parser Token := satisfying (·.kind == kind)

def operator (text : String) : Parser Token :=
  satisfying fun token => token.kind == .operator && token.text == text

def operatorIn (texts : List String) : Parser Token :=
  satisfying fun token => token.kind == .operator && texts.contains token.text

def keyword (text : String) : Parser Token :=
  satisfying fun token => token.kind == .keyword && token.text == text

def isNext (text : String) : Parser Bool := ahead (operator text)

def upTo (parser : Parser α) : (count : Nat) → Parser (List α)
  | 0 => pure []
  | count + 1 => do
    match ← attempt parser with
    | none => pure []
    | some answer => return answer :: (← upTo parser count)

def many (parser : Parser α) : Parser (List α) := do upTo parser ((← read).scan.tokens.length + 1)

def oneOrMore (parser : Parser α) : Parser (List α) := do return (← parser) :: (← many parser)

def separated (item : Parser α) : Parser (List α) := do
  return (← item) :: (← many (do let _ ← operator ","; item))

def listed (item : Parser α) : Parser (List α) := do
  let items ← separated item
  let _ ← attempt (operator ",")
  pure items

/-- Gives up with the error of the first alternative that can be read, unless that has none; fails in any case. -/
def refuse (alternatives : List (Parser (Option SyntaxError))) : Parser α := do
  match ← first alternatives with
  | some error => giveUp error
  | none => failure

def explain (alternatives : List (Parser (Option SyntaxError))) : Parser α := do
  if (← get).explains then refuse alternatives else failure

def plainly (parser : Parser α) : Parser α := do
  let explains := (← get).explains
  modify fun memory => { memory with explains := false }
  let answer ← attempt parser
  modify fun memory => { memory with explains := explains }
  match answer with
  | some answer => pure answer
  | none => failure

def kept (rule : Rule) (parser : Parser Tree) : Parser Tree := do
  let _ ← peek
  let place := (← get).place
  match (← get).answers.lookup (rule, place) with
  | some (some (tree, behind)) =>
    modify fun memory => { memory with place := behind }
    pure tree
  | some none => failure
  | none =>
    let answer ← attempt parser
    modify fun memory =>
      { memory with answers := ((rule, place), answer.map (·, memory.place)) :: memory.answers }
    match answer with
    | some tree => pure tree
    | none => failure

end Parser

end GuestForge.Text.Literal
