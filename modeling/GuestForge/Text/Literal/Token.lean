import GuestForge.Text.Literal.Number
import GuestForge.Text.Printable
import GuestForge.Text.Quoted
import GuestForge.Text.WordChar
set_option autoImplicit false

/-!
# Tokens of expressions

Names, numbers, quoted texts, operators and line ends. Scanning stops at the first place that starts no token, or at
the end of the text.
-/
namespace GuestForge.Text.Literal

inductive ScanError where
  | number (error : NumberError)
  | unmatched (closing : Char)
  | mismatched (closing opening : Char) (line : Option Nat)
  | tooDeep
  | unterminated (triple : Bool) (line : Nat)
  | character (c : Char)
  | neverClosed (opening : Char)
  | continuation
  | endOfText
  deriving DecidableEq, Repr

def codeText (c : Char) : String :=
  let digits := if c.toNat < 0x10000 then 4 else if c.toNat < 0x100000 then 5 else 6
  "U+" ++ (String.ofList (Quoted.fixedHex c.toNat digits)).map Char.toUpper

def ScanError.message : ScanError → String
  | .number error => error.message
  | .unmatched closing => "unmatched '" ++ closing.toString ++ "'"
  | .mismatched closing opening line =>
    "closing parenthesis '" ++ closing.toString ++ "' does not match opening parenthesis '" ++
      opening.toString ++ "'" ++ (line.map (" on line " ++ toString ·)).getD ""
  | .tooDeep => "too many nested parentheses"
  | .unterminated triple line =>
    "unterminated " ++ (if triple then "triple-quoted " else "") ++ "string literal (detected at line " ++
      toString line ++ ")"
  | .character c =>
    if Printable.isPrintable c then "invalid character '" ++ c.toString ++ "' (" ++ codeText c ++ ")"
    else "invalid non-printable character " ++ codeText c
  | .neverClosed opening => "'" ++ opening.toString ++ "' was never closed"
  | .continuation => "unexpected character after line continuation character"
  | .endOfText => "unexpected EOF while parsing"

/-- Whether the error is reported even where an earlier token is out of place. -/
def ScanError.isLoud : ScanError → Bool
  | .neverClosed _ | .continuation | .endOfText => false
  | _ => true

inductive TokenKind where
  | name
  | keyword
  | number
  | string
  | operator
  | newline
  | indent
  | finish
  deriving DecidableEq, Repr

structure Token where
  kind : TokenKind
  text : String
  line : Nat
  depth : Nat
  deriving DecidableEq, Repr

/-- The tokens before the place where scanning stopped, the error there, the brackets that are open then, and whether
a comment ends the text. -/
structure Scan where
  tokens : List Token := []
  stop : Option ScanError := none
  opened : List (Char × Nat) := []
  endsInComment : Bool := false

def Scan.push (token : Token) (scan : Scan) : Scan := { scan with tokens := token :: scan.tokens }

def keywords : List String :=
  ["False", "None", "True", "and", "as", "assert", "async", "await", "break", "class", "continue", "def", "del",
    "elif", "else", "except", "finally", "for", "from", "global", "if", "import", "in", "is", "lambda", "nonlocal",
    "not", "or", "pass", "raise", "return", "try", "while", "with", "yield"]

def longOperators : List (List Char) :=
  ["**=", "//=", ">>=", "<<=", "...", "!=", "%=", "&=", "**", "*=", "+=", "-=", "->", "//", "/=", ":=", "<<", "<=",
    "<>", "==", ">=", ">>", "@=", "^=", "|="].map String.toList

def isTextPrefix (letters : List Char) : Bool :=
  ["b", "r", "u", "f", "br", "rb", "fr", "rf"].contains (String.ofList letters).toLower

def endQuoted (quote : Char) (line : Nat) : List Char → Except Nat (List Char × Nat)
  | [] => .error line
  | ['\\'] => .error line
  | '\\' :: c :: rest => endQuoted quote (if c = '\n' then line + 1 else line) rest
  | c :: rest =>
    if c = quote then .ok (rest, line) else if c = '\n' then .error line else endQuoted quote line rest

def endTriple (quote : Char) (seen line : Nat) : List Char → Except Nat (List Char × Nat)
  | [] => .error line
  | ['\\'] => .error line
  | '\\' :: c :: rest => endTriple quote 0 (if c = '\n' then line + 1 else line) rest
  | c :: rest =>
    if c = quote then if seen = 2 then .ok (rest, line) else endTriple quote (seen + 1) line rest
    else endTriple quote 0 (if c = '\n' then line + 1 else line) rest

def endString (quote : Char) (line : Nat) (text : List Char) : Except ScanError (List Char × Nat) :=
  match text with
  | c :: d :: rest =>
    if c = quote ∧ d = quote then (endTriple quote 0 line rest).mapError (.unterminated true)
    else (endQuoted quote line text).mapError (.unterminated false)
  | _ => (endQuoted quote line text).mapError (.unterminated false)

def isBlank (c : Char) : Bool := c == ' ' || c == '\t' || c == '\x0c'

def marginWidth : (column : Nat) → List Char → Nat
  | column, [] => column
  | column, c :: rest =>
    marginWidth (if c = '\t' then (column / 8 + 1) * 8 else if c = '\x0c' then 0 else column + 1) rest

/-- Where scanning stands: the line, whether that starts here, whether it holds no token, and the open brackets with
their lines. -/
structure Place where
  line : Nat := 1
  starts : Bool := true
  isEmpty : Bool := false
  opened : List (Char × Nat) := []

def Place.token (place : Place) (kind : TokenKind) (text : List Char) : Token :=
  ⟨kind, String.ofList text, place.line, place.opened.length⟩

def Place.stop (place : Place) (error : ScanError) : Scan := { stop := some error, opened := place.opened }

def Place.bracket (place : Place) (c : Char) : Except ScanError Place :=
  let closes (opening : Char) : Except ScanError Place :=
    match place.opened with
    | [] => .error (.unmatched c)
    | (found, line) :: opened =>
      if found = opening then .ok { place with opened := opened }
      else .error (.mismatched c found (if line = place.line then none else some line))
  if c = '(' ∨ c = '[' ∨ c = '\x7b' then
    if 200 ≤ place.opened.length then .error .tooDeep
    else .ok { place with opened := (c, place.line) :: place.opened }
  else if c = ')' then closes '('
  else if c = ']' then closes '['
  else if c = '\x7d' then closes '\x7b'
  else .ok place

def badInWord? : List Char → Option Char
  | [] => none
  | c :: rest =>
    if WordChar.startsIdentifier c then rest.find? (!WordChar.isIdentifier ·) else some c

/-- Scans on from a place. Each step reads a character or goes from the start of a line into it, so `fuel` of twice
the length of the text is enough. -/
def scanFrom : (fuel : Nat) → Place → List Char → Scan
  | 0, place, _ => { opened := place.opened }
  | fuel + 1, place, text =>
    if place.starts then
      let margin := text.takeWhile isBlank
      let rest := text.dropWhile isBlank
      let isEmpty := rest.head?.any fun c => c = '#' ∨ c = '\n'
      let place := { place with starts := false, isEmpty := isEmpty }
      if rest.head? = some '\\' ∧ rest[1]? ≠ some '\n' then place.stop .continuation
      else if 0 < marginWidth 0 margin ∧ !isEmpty ∧ place.opened = [] then
        (scanFrom fuel place rest).push (place.token .indent [])
      else scanFrom fuel place rest
    else match text with
      | [] =>
        match place.opened with
        | (opening, _) :: _ => place.stop (.neverClosed opening)
        | [] => { tokens := [place.token .finish []] }
      | c :: rest =>
        let quoted (letters : List Char) (quote : Char) (rest : List Char) : Scan :=
          match endString quote place.line rest with
          | .error error => place.stop error
          | .ok (behind, line) =>
            let body := rest.take (rest.length - behind.length)
            let token := place.token .string (letters ++ quote :: body)
            (scanFrom fuel { place with line := line } behind).push token
        let wide (operator : List Char) : Scan :=
          (scanFrom fuel place (text.drop operator.length)).push (place.token .operator operator)
        if isBlank c then scanFrom fuel place rest
        else if c = '#' then
          match rest.dropWhile (· ≠ '\n') with
          | [] => { scanFrom fuel place [] with endsInComment := true }
          | rest => scanFrom fuel place rest
        else if c = '\n' then
          let below := { place with line := place.line + 1, starts := true }
          if place.isEmpty ∨ place.opened ≠ [] then scanFrom fuel below rest
          else (scanFrom fuel below rest).push (place.token .newline [])
        else if c = '\\' then
          match rest with
          | ['\n'] =>
            place.stop (match place.opened with
              | (opening, _) :: _ => .neverClosed opening
              | [] => .endOfText)
          | '\n' :: rest => scanFrom fuel { place with line := place.line + 1 } rest
          | _ => place.stop .continuation
        else if c.isDigit ∨ (c = '.' ∧ rest.head?.any Char.isDigit) then
          match endOfNumber text with
          | .error error => place.stop (.number error)
          | .ok behind =>
            (scanFrom fuel place behind).push
              (place.token .number (text.take (text.length - behind.length)))
        else if c = '\'' ∨ c = '"' then quoted [] c rest
        else if isWordLike c then
          let word := text.takeWhile isWordLike
          match isTextPrefix word, text.drop word.length with
          | true, '\'' :: rest => quoted word '\'' rest
          | true, '"' :: rest => quoted word '"' rest
          | _, behind =>
            match badInWord? word with
            | some c => place.stop (.character c)
            | none =>
              let kind := if (String.ofList word) ∈ keywords then TokenKind.keyword else .name
              (scanFrom fuel place behind).push (place.token kind word)
        else match longOperators.find? (·.isPrefixOf text) with
          | some operator => wide operator
          | none =>
            match place.bracket c with
            | .error error => place.stop error
            | .ok behind =>
              if Printable.isPrintable c then (scanFrom fuel behind rest).push (behind.token .operator [c])
              else place.stop (.character c)

def scan (line : Nat) (text : List Char) : Scan := scanFrom (2 * text.length + 2) { line := line } text

end GuestForge.Text.Literal
