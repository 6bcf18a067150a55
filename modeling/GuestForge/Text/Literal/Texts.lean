import GuestForge.Text.Literal.SyntaxError
set_option autoImplicit false

/-!
# Texts one behind the other

Quoted texts that follow each other make one text; all are of bytes or none is. In a formatted one, the literal parts
and the expressions are checked in the order in which they stand.
-/
namespace GuestForge.Text.Literal

/-- How the parts of a formatted text are checked: whether it is raw, the line of an expression by the text from that
on, and the expression itself by its line. -/
structure Formatting where
  isRaw : Bool
  lineOf : List Char → Nat
  checkInside : (line : Nat) → List Char → Except SyntaxError Unit

def checkField (formatting : Formatting) (level : Nat) (checkFormat : List Char → Except SyntaxError (List Char))
    (text : List Char) : Except SyntaxError (List Char) := do
  if 2 ≤ level then throw (.format .tooDeep)
  let (expression, rest) ← (expressionPart 0 none [] text).mapError .format
  match rest with
  | [] => throw (.format .missingBrace)
  | stop :: _ =>
    if expression.all fun c => isBlank c || c == '\n' then
      throw (.format (if stop = '\x7d' then .noExpression else .nothingBefore stop))
    formatting.checkInside (formatting.lineOf text) expression
    let rest := match rest with
      | '=' :: rest => rest.dropWhile fun c => isBlank c || c == '\n' || c == '\r' || c == '\x0b'
      | rest => rest
    let rest ← match rest with
      | '!' :: c :: rest => if c ∈ ['s', 'r', 'a'] then pure rest else throw (.format .conversion)
      | rest => pure rest
    let rest ← match rest with
      | ':' :: rest => checkFormat rest
      | rest => pure rest
    match rest with
    | '\x7d' :: rest => pure rest
    | _ => throw (.format .missingBrace)

/-- Checks a text, or a format at a level above zero, up to its end, and answers with the text from the brace on that
ends it. Each step takes a character or more, so `fuel` of more than the length of the text is enough. -/
def checkParts (formatting : Formatting) : (fuel level : Nat) → List Char → Except SyntaxError (List Char)
  | 0, _, _ => .ok []
  | fuel + 1, level, text => do
    let part ← (literalPart formatting.isRaw (level != 0) .plain text).mapError .format
    if !formatting.isRaw then (checkText 0 part.literal).mapError .text
    if part.isDoubled then checkParts formatting fuel level part.rest
    else match part.rest with
    | [] => if level = 0 then pure [] else throw (.format .missingBrace)
    | '\x7b' :: rest =>
      checkParts formatting fuel level
        (← checkField formatting level (checkParts formatting fuel (level + 1)) rest)
    | rest => pure rest

def QuotedText.checkFormatted (text : QuotedText) (checkInside : Nat → List Char → Except SyntaxError Unit) :
    Except SyntaxError Unit :=
  let lineEnds (part : List Char) : Nat := part.count '\n'
  let lineOf (rest : List Char) : Nat := text.line + lineEnds text.body - lineEnds rest
  (checkParts ⟨text.isRaw, lineOf, checkInside⟩ (text.body.length + 1) 0 text.body).map fun _ => ()

def checkTexts (checkInside : Nat → List Char → Except SyntaxError Unit) (isBytes : Bool) :
    List QuotedText → Except SyntaxError Unit
  | [] => .ok ()
  | text :: texts => do
    text.check.mapError .text
    if text.isBytes ≠ isBytes then throw (.text .mixed)
    if text.isFormatted then text.checkFormatted checkInside
    checkTexts checkInside isBytes texts

end GuestForge.Text.Literal
