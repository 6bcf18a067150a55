import GuestForge.Text.Literal.Expression
set_option autoImplicit false

/-!
# Reading a text

A text is scanned and then read as an expression. If it is none, it is read once more by the rules that explain errors,
and of the errors of scanning and of reading one is reported: `read` answers with that, or with the tree.
-/
namespace GuestForge.Text.Literal
open GuestForge.Text.Literal.Parser

/-- Reads the tokens by a rule. Each takes fewer than twenty calls, one inside the other. -/
def parse (source : Source) (rule : Calls → Parser Tree) (explains : Bool) :
    Except Stop (Option Tree × Memory) :=
  ((rule (callsWithin (20 * (source.scan.tokens.length + 2)))).run source).run.run { explains := explains }

/-- The error that is reported of those in a text of which `seen` tokens were seen. An error of scanning comes before
others, even if it stands behind them; where scanning stopped for less, an open bracket in a line before the last
token seen does. -/
def report (scan : Scan) (seen : Nat) (error : SyntaxError) : SyntaxError :=
  match scan.stop with
  | none => error
  | some stop =>
    if stop.isLoud then .scan stop
    else match scan.opened, scan.tokens[seen - 1]? with
      | (opening, line) :: _, some token => if line < token.line then .scan (.neverClosed opening) else error
      | _, _ => error

/-- Whether the end of the text was met with the last token seen. Where scanning came that far, it is met with all
tokens that it ends in but quoted texts. -/
def Scan.isThrough (scan : Scan) (seen : Nat) : Bool :=
  !scan.stop.any (·.isLoud) && !scan.endsInComment && scan.tokens.length ≤ seen &&
    scan.tokens.getLast?.any (·.kind != .string)

def Stop.reported (stop : Stop) (scan : Scan) : SyntaxError :=
  match stop.error with
  | .scan error => .scan error
  | error => if scan.isThrough stop.seen then error else report scan stop.seen error

def readTokens (source : Source) (rule : Calls → Parser Tree) : Except SyntaxError Tree :=
  let scan := source.scan
  match parse source rule false with
  | .error stop => .error (stop.reported scan)
  | .ok (some tree, _) => .ok tree
  | .ok (none, memory) =>
    match parse source rule true with
    | .error stop => .error (stop.reported scan)
    | .ok (_, again) =>
      if scan.tokens[memory.seen - 1]?.any (·.kind == .indent) then .error .unexpectedIndent
      else .error (report scan again.seen .unexpected)

def checkInside : (depth line : Nat) → List Char → Except SyntaxError Unit
  | 0, _, _ => .ok ()
  | depth + 1, line, text =>
    let scan := scan line ('(' :: (text ++ [')', '\n']))
    match readTokens ⟨scan, checkInside depth⟩ starExpressions with
    | .ok _ => .ok ()
    | .error error => .error error.inFormatted

def read (text : List Char) : Except SyntaxError Tree :=
  readTokens ⟨scan 1 text, checkInside text.length⟩ wholeText

end GuestForge.Text.Literal
