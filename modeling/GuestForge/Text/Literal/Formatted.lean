set_option autoImplicit false

/-!
# Parts of a formatted text

A formatted text holds expressions in braces. `literalPart` cuts off what stands before the next brace, and
`expressionPart` what stands in braces before a conversion, a format or the brace that closes it.
-/
namespace GuestForge.Text.Literal

inductive FormatError where
  | singleBrace
  | missingBrace
  | tooDeep
  | noExpression
  | nothingBefore (stop : Char)
  | backslash
  | comment
  | unterminated
  | unmatched (bracket : Char)
  | mismatched (closing opening : Char)
  | tooManyBrackets
  | conversion
  deriving DecidableEq, Repr

def FormatError.message : FormatError → String
  | .singleBrace => "f-string: single '\x7d' is not allowed"
  | .missingBrace => "f-string: expecting '\x7d'"
  | .tooDeep => "f-string: expressions nested too deeply"
  | .noExpression => "f-string: empty expression not allowed"
  | .nothingBefore stop => "f-string: expression required before '" ++ stop.toString ++ "'"
  | .backslash => "f-string expression part cannot include a backslash"
  | .comment => "f-string expression part cannot include '#'"
  | .unterminated => "f-string: unterminated string"
  | .unmatched bracket => "f-string: unmatched '" ++ bracket.toString ++ "'"
  | .mismatched closing opening =>
    "f-string: closing parenthesis '" ++ closing.toString ++ "' does not match opening parenthesis '" ++
      opening.toString ++ "'"
  | .tooManyBrackets => "f-string: too many nested parenthesis"
  | .conversion => "f-string: invalid conversion character: expected 's', 'r', or 'a'"

inductive LiteralPlace where
  | plain
  | escape
  | beforeName
  | name
  deriving DecidableEq, Repr

/-- A literal part, whether it ends in the first of two braces, and the text behind those or from the brace on. -/
structure LiteralPart where
  literal : List Char := []
  isDoubled : Bool := false
  rest : List Char := []

def literalPart (isRaw isFormat : Bool) : LiteralPlace → List Char → Except FormatError LiteralPart
  | _, [] => .ok {}
  | place, c :: rest =>
    let goOn (place : LiteralPlace) : Except FormatError LiteralPart :=
      (literalPart isRaw isFormat place rest).map fun part => { part with literal := c :: part.literal }
    let afterChar : Except FormatError LiteralPart :=
      if c ≠ '\x7b' ∧ c ≠ '\x7d' then goOn .plain
      else if isFormat then .ok { rest := c :: rest }
      else if rest.head? = some c then .ok ⟨[c], true, rest.tail⟩
      else if c = '\x7d' then .error .singleBrace
      else .ok { rest := c :: rest }
    match place with
    | .plain => if c = '\\' ∧ !isRaw ∧ rest ≠ [] then goOn .escape else afterChar
    | .escape => if c = 'N' then goOn .beforeName else afterChar
    | .beforeName => goOn (if c = '\x7b' then .name else .plain)
    | .name => goOn (if c = '\x7d' then .plain else .name)

def opening? (closing : Char) : Option Char :=
  if closing = ')' then some '(' else if closing = ']' then some '['
  else if closing = '\x7d' then some '\x7b' else none

/-- Cuts off an expression. `skipped` characters belong to it already, `quote` is open, as one or as three, and so
are the brackets in `opened`. -/
def expressionPart :
    (skipped : Nat) → (quote : Option (Char × Bool)) → (opened : List Char) → List Char →
      Except FormatError (List Char × List Char)
  | _, some _, _, [] => .error .unterminated
  | _, none, bracket :: _, [] => .error (.unmatched bracket)
  | _, none, [], [] => .ok ([], [])
  | skipped + 1, quote, opened, c :: rest =>
    (expressionPart skipped quote opened rest).map fun (part, rest) => (c :: part, rest)
  | 0, quote, opened, c :: rest =>
    let goOn (skipped : Nat) (quote : Option (Char × Bool)) (opened : List Char) :
        Except FormatError (List Char × List Char) :=
      (expressionPart skipped quote opened rest).map fun (part, rest) => (c :: part, rest)
    let isTriple := rest.take 2 = [c, c]
    if c = '\\' then .error .backslash
    else match quote with
    | some (mark, triple) =>
      if c ≠ mark ∨ (triple ∧ ¬ isTriple) then goOn 0 quote opened
      else goOn (if triple then 2 else 0) none opened
    | none =>
      if c = '\'' ∨ c = '"' then
        if isTriple then goOn 2 (some (c, true)) opened else goOn 0 (some (c, false)) opened
      else if c = '(' ∨ c = '[' ∨ c = '\x7b' then
        if 200 ≤ opened.length then .error .tooManyBrackets else goOn 0 none (c :: opened)
      else if c = '#' then .error .comment
      else if opened = [] ∧ c ∈ ['!', '=', '<', '>'] ∧ rest.head? = some '=' then goOn 1 none opened
      else if opened = [] ∧ c ∈ ['!', '=', ':', '\x7d'] then .ok ([], c :: rest)
      else match opening? c, opened with
        | none, _ => goOn 0 none opened
        | some _, [] => .error (.unmatched c)
        | some bracket, found :: opened =>
          if found = bracket then goOn 0 none opened else .error (.mismatched c found)

end GuestForge.Text.Literal
