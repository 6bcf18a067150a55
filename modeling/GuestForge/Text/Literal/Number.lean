set_option autoImplicit false

/-!
# Numbers in expressions

How far a number reaches, and why a text that starts like one is none. Underscores may stand between digits, and
`0x`, `0o` and `0b` introduce other bases than ten.
-/
namespace GuestForge.Text.Literal

inductive NumberKind where
  | decimal
  | hexadecimal
  | octal
  | binary
  | imaginary
  deriving DecidableEq, Repr

def NumberKind.name : NumberKind → String
  | .decimal => "decimal"
  | .hexadecimal => "hexadecimal"
  | .octal => "octal"
  | .binary => "binary"
  | .imaginary => "imaginary"

inductive NumberError where
  | invalid (kind : NumberKind)
  | digit (c : Char) (kind : NumberKind)
  | leadingZeros
  deriving DecidableEq, Repr

def NumberError.message : NumberError → String
  | .invalid kind => "invalid " ++ kind.name ++ " literal"
  | .digit c kind => "invalid digit '" ++ c.toString ++ "' in " ++ kind.name ++ " literal"
  | .leadingZeros =>
    "leading zeros in decimal integer literals are not permitted; use an 0o prefix for octal integers"

/-- Outside ASCII every character is taken as part of a word, which is then checked as a whole. -/
def isWordLike (c : Char) : Bool := c.isAlphanum || c == '_' || 128 ≤ c.toNat

def startsOperatorWord (text : List Char) : Bool :=
  ["and", "else", "for", "or", "not"].any (fun word =>
    word.toList.isPrefixOf text && !(text.drop word.length).head?.any isWordLike) ||
  ["if", "in", "is"].any fun word => word.toList.isPrefixOf text

def endNumber (kind : NumberKind) (text : List Char) : Except NumberError (List Char) :=
  if text.head?.any (fun c => c.isAlphanum || c == '_') ∧ ¬ startsOperatorWord text then .error (.invalid kind) else .ok text

def endDigits : List Char → Except NumberError (List Char)
  | [] => .ok []
  | '_' :: c :: rest => if c.isDigit then endDigits (c :: rest) else .error (.invalid .decimal)
  | c :: rest =>
    if c = '_' then .error (.invalid .decimal) else if c.isDigit then endDigits rest else .ok (c :: rest)

def endZeros : List Char → Except NumberError (List Char)
  | [] => .ok []
  | '_' :: c :: rest => if c.isDigit then endZeros (c :: rest) else .error (.invalid .decimal)
  | c :: rest =>
    if c = '_' then .error (.invalid .decimal) else if c = '0' then endZeros rest else .ok (c :: rest)

def endImaginary : List Char → Except NumberError (List Char)
  | c :: rest => if c = 'j' ∨ c = 'J' then endNumber .imaginary rest else endNumber .decimal (c :: rest)
  | [] => .ok []

/-- Behind the digits may stand an exponent; a word that starts like one may follow the number instead. -/
def endExponent (text : List Char) : Except NumberError (List Char) :=
  match text with
  | c :: rest =>
    if c = 'e' ∨ c = 'E' then
      match rest with
      | d :: more =>
        if d.isDigit then do endImaginary (← endDigits more)
        else if d = '+' ∨ d = '-' then
          if more.head?.any Char.isDigit then do endImaginary (← endDigits more)
          else .error (.invalid .decimal)
        else endNumber .decimal text
      | [] => endNumber .decimal text
    else endImaginary text
  | [] => .ok []

def endFraction (text : List Char) : Except NumberError (List Char) :=
  if text.head?.any Char.isDigit then do endExponent (← endDigits (text.drop 1)) else endExponent text

/-- Where reading stands in a number of another base: before the first digit or underscore, behind an underscore, or
behind a digit. -/
inductive BasePlace where
  | first
  | underscore
  | digit
  deriving DecidableEq, Repr

def wrongDigit (kind : NumberKind) (c : Option Char) : NumberError :=
  match c with
  | some c => if c.isDigit ∧ kind ≠ .hexadecimal then .digit c kind else .invalid kind
  | none => .invalid kind

def endBased (kind : NumberKind) (isBaseDigit : Char → Bool) : BasePlace → List Char → Except NumberError (List Char)
  | .digit, [] => .ok []
  | _, [] => .error (wrongDigit kind none)
  | place, c :: rest =>
    if isBaseDigit c then endBased kind isBaseDigit .digit rest
    else if c = '_' ∧ place ≠ .underscore then endBased kind isBaseDigit .underscore rest
    else if place = .digit ∧ ¬ c.isDigit then endNumber kind (c :: rest)
    else .error (wrongDigit kind (some c))

def isHexDigit (c : Char) : Bool := c.isDigit || ('a' ≤ c && c ≤ 'f') || ('A' ≤ c && c ≤ 'F')

def isOctalDigit (c : Char) : Bool := '0' ≤ c && c < '8'

def isBinaryDigit (c : Char) : Bool := c == '0' || c == '1'

def endZeroNumber (text : List Char) : Except NumberError (List Char) :=
  match text with
  | 'x' :: rest | 'X' :: rest => endBased .hexadecimal isHexDigit .first rest
  | 'o' :: rest | 'O' :: rest => endBased .octal isOctalDigit .first rest
  | 'b' :: rest | 'B' :: rest => endBased .binary isBinaryDigit .first rest
  | _ => do
    let behindZeros ← endZeros text
    let nonzero := behindZeros.head?.any Char.isDigit
    let rest ← if nonzero then endDigits behindZeros else pure behindZeros
    match rest with
    | '.' :: rest => endFraction rest
    | c :: _ =>
      if c = 'e' ∨ c = 'E' then endExponent rest
      else if c = 'j' ∨ c = 'J' then endImaginary rest
      else if nonzero then .error .leadingZeros
      else endNumber .decimal rest
    | [] => if nonzero then .error .leadingZeros else .ok []

def endOfNumber (text : List Char) : Except NumberError (List Char) :=
  match text with
  | '0' :: rest => endZeroNumber rest
  | '.' :: rest => endFraction rest
  | _ => do
    match ← endDigits (text.drop 1) with
    | '.' :: rest => endFraction rest
    | rest => endExponent rest

end GuestForge.Text.Literal
