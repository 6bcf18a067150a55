import GuestForge.Text.Hex
import GuestForge.Text.Literal.Token
set_option autoImplicit false

/-!
# Quoted texts in expressions

A quoted text may be raw, of bytes or formatted, as the letters before its quote say. What stands between the quotes
must be ASCII in one of bytes and, unless the text is raw, hold only complete escapes.
-/
namespace GuestForge.Text.Literal

inductive EscapeProblem where
  | twoDigits
  | fourDigits
  | eightDigits
  | noCharacter
  | badName
  | unknownName
  deriving DecidableEq, Repr

def EscapeProblem.message : EscapeProblem → String
  | .twoDigits => "truncated \\xXX escape"
  | .fourDigits => "truncated \\uXXXX escape"
  | .eightDigits => "truncated \\UXXXXXXXX escape"
  | .noCharacter => "illegal Unicode character"
  | .badName => "malformed \\N character escape"
  | .unknownName => "unknown Unicode character name"

inductive TextError where
  | notAscii
  | mixed
  | byteEscape (position : Nat)
  | escape (problem : EscapeProblem) (first last : Nat)
  deriving DecidableEq, Repr

def TextError.message : TextError → String
  | .notAscii => "bytes can only contain ASCII literal characters"
  | .mixed => "cannot mix bytes and nonbytes literals"
  | .byteEscape position => "(value error) invalid \\x escape at position " ++ toString position
  | .escape problem first last =>
    "(unicode error) 'unicodeescape' codec can't decode bytes in position " ++ toString first ++ "-" ++
      toString last ++ ": " ++ problem.message

def isAscii (c : Char) : Bool := c.toNat < 128

def checkDigits (problem : EscapeProblem) (count position : Nat) (text : List Char) : Except TextError Unit :=
  let digits := (text.take count).takeWhile isHexDigit
  if digits.length < count then .error (.escape problem position (position + 1 + digits.length))
  else if count = 8 ∧ 0x10ffff < (digits.foldl (fun n c => 16 * n + (Hex.digitValue? c).getD 0) 0) then
    .error (.escape .noCharacter position (position + 9))
  else .ok ()

/-- The places that a text takes in positions: ten for a character outside ASCII, as for its escape with eight digits,
and six for a backslash before one or at the end. -/
def places : List Char → Nat
  | [] => 0
  | ['\\'] => 6
  | '\\' :: c :: rest => (if isAscii c then 2 else 16) + places rest
  | c :: rest => (if isAscii c then 1 else 10) + places rest

def isCharacterName (name : List Char) : Bool :=
  name.all (fun c => c.isAlphanum || c == ' ' || c == '-') && name.head? != some ' ' && name.getLast? != some ' '

def checkName (position : Nat) : List Char → Except TextError Unit
  | '\x7b' :: rest =>
    let name := rest.takeWhile (· ≠ '\x7d')
    let last := position + 2 + places name
    if name.length = rest.length ∨ name = [] then .error (.escape .badName position last)
    else if isCharacterName name then .ok ()
    else .error (.escape .unknownName position (last + 1))
  | _ => .error (.escape .badName position (position + 1))

def checkText (position : Nat) : List Char → Except TextError Unit
  | [] => .ok ()
  | ['\\'] => .ok ()
  | '\\' :: c :: rest => do
    if c = 'x' then checkDigits .twoDigits 2 position rest
    else if c = 'u' then checkDigits .fourDigits 4 position rest
    else if c = 'U' then checkDigits .eightDigits 8 position rest
    else if c = 'N' then checkName position rest
    checkText (position + places ['\\', c]) rest
  | c :: rest => checkText (position + places [c]) rest

def checkBytes (position : Nat) : List Char → Except TextError Unit
  | [] => .ok ()
  | ['\\'] => .ok ()
  | '\\' :: c :: rest =>
    let digits := (rest.take 2).takeWhile isHexDigit
    if c = 'x' ∧ digits.length < 2 then .error (.byteEscape position)
    else checkBytes (position + 2) rest
  | _ :: rest => checkBytes (position + 1) rest

structure QuotedText where
  letters : List Char
  body : List Char
  line : Nat
  deriving DecidableEq, Repr

def QuotedText.ofToken (token : Token) : QuotedText :=
  let isQuote := fun c => c == '\'' || c == '"'
  let text := token.text.toList
  let letters := (text.takeWhile (!isQuote ·)).map Char.toLower
  let quoted := text.drop letters.length
  let quotes := if 6 ≤ quoted.length ∧ (quoted.take 3).all (some · == quoted.head?) then 3 else 1
  ⟨letters, (quoted.drop quotes).take (quoted.length - 2 * quotes), token.line⟩

def QuotedText.isBytes (text : QuotedText) : Bool := 'b' ∈ text.letters

def QuotedText.isFormatted (text : QuotedText) : Bool := 'f' ∈ text.letters

def QuotedText.isRaw (text : QuotedText) : Bool := 'r' ∈ text.letters

def QuotedText.check (text : QuotedText) : Except TextError Unit :=
  if text.isFormatted then .ok ()
  else if text.isBytes ∧ ¬ text.body.all isAscii then .error .notAscii
  else if text.isRaw then .ok ()
  else if text.isBytes then checkBytes 0 text.body
  else checkText 0 text.body

end GuestForge.Text.Literal
