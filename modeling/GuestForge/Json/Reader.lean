import GuestForge.Json.Value
import GuestForge.Text.Hex
set_option autoImplicit false

/-!
# Reading JSON

`parse` reads one document. Besides the standard's it takes the numbers `NaN`, `Infinity` and `-Infinity`.
Where it stops it says what it missed there and in which line and column; columns count bytes of UTF-8.
-/
namespace GuestForge.Json

inductive Problem where
  | expectedValue
  | expectedIdent
  | endInValue
  | endInList
  | endInObject
  | endInString
  | expectedColon
  | expectedListComma
  | expectedObjectComma
  | keyNotString
  | trailingComma
  | trailingCharacters
  | invalidNumber
  | numberOutOfRange
  | invalidEscape
  | controlCharacter
  | endOfHexEscape
  | loneSurrogate
  | recursionLimit
  deriving DecidableEq, Repr

def Problem.message : Problem → String
  | .expectedValue => "expected value"
  | .expectedIdent => "expected ident"
  | .endInValue => "EOF while parsing a value"
  | .endInList => "EOF while parsing a list"
  | .endInObject => "EOF while parsing an object"
  | .endInString => "EOF while parsing a string"
  | .expectedColon => "expected `:`"
  | .expectedListComma => "expected `,` or `]`"
  | .expectedObjectComma => "expected `,` or `\x7d`"
  | .keyNotString => "key must be a string"
  | .trailingComma => "trailing comma"
  | .trailingCharacters => "trailing characters"
  | .invalidNumber => "invalid number"
  | .numberOutOfRange => "number out of range"
  | .invalidEscape => "invalid escape"
  | .controlCharacter => "control character (\\u0000-\\u001F) found while parsing a string"
  | .endOfHexEscape => "unexpected end of hex escape"
  | .loneSurrogate => "lone leading surrogate in hex escape"
  | .recursionLimit => "recursion limit exceeded"

structure Stop where
  problem : Problem
  rest : List Char
  deriving DecidableEq, Repr

abbrev Read (α : Type) := Except Stop (α × List Char)

def isBlank (c : Char) : Bool := c == ' ' || c == '\t' || c == '\n' || c == '\r'

def skipBlanks (text : List Char) : List Char := text.dropWhile isBlank

def readWord {α : Type} (value : α) : List Char → List Char → Read α
  | [], text => .ok (value, text)
  | _ :: _, [] => .error ⟨.endInValue, []⟩
  | letter :: word, c :: text =>
    if c = letter then readWord value word text else .error ⟨.expectedIdent, c :: text⟩

def readDigits (text : List Char) : Read (List Char) :=
  match text.takeWhile Char.isDigit, text with
  | [], [] => .error ⟨.endInValue, []⟩
  | [], _ => .error ⟨.invalidNumber, text⟩
  | digits, _ => .ok (digits, text.dropWhile Char.isDigit)

def digitLimit : Nat := 4300

/-- The digits before the point: a zero stands alone there. Digits beyond the limit are an error behind the first
that is too many. -/
def readWhole (text : List Char) : Read (List Char) :=
  match text with
  | '0' :: c :: rest => if c.isDigit then .error ⟨.invalidNumber, c :: rest⟩ else .ok (['0'], c :: rest)
  | _ =>
    match readDigits text with
    | .error stop => .error stop
    | .ok (digits, rest) =>
      if digits.length ≤ digitLimit then .ok (digits, rest)
      else .error ⟨.numberOutOfRange, text.drop (digitLimit + 1)⟩

def readFraction (text : List Char) : Read (List Char) :=
  match text with
  | '.' :: rest => (readDigits rest).map (fun (digits, rest) => ('.' :: digits, rest))
  | _ => .ok ([], text)

def readExponent (text : List Char) : Read (List Char) :=
  match text with
  | c :: rest =>
    if c = 'e' ∨ c = 'E' then
      match rest with
      | d :: more =>
        if d = '+' ∨ d = '-' then (readDigits more).map (fun (digits, rest) => (c :: d :: digits, rest))
        else (readDigits rest).map (fun (digits, rest) => (c :: digits, rest))
      | [] => .error ⟨.endInValue, []⟩
    else .ok ([], text)
  | [] => .ok ([], [])

def readMagnitude (text : List Char) : Except Stop (List Char × List Char) := do
  let (whole, text) ← readWhole text
  let (fraction, text) ← readFraction text
  let (exponent, text) ← readExponent text
  .ok (whole ++ fraction ++ exponent, text)

def readNumber (text : List Char) : Read Value :=
  match text with
  | '-' :: 'I' :: rest => readWord (.number "-Infinity") "nfinity".toList rest
  | '-' :: rest => (readMagnitude rest).map (fun (digits, rest) => (.number (String.ofList ('-' :: digits)), rest))
  | _ => (readMagnitude text).map (fun (digits, rest) => (.number (String.ofList digits), rest))

/-- Where a reader stands inside a string: among plain characters, behind a backslash, in an escape of which
so many digits are owed, or between the two halves of a surrogate pair. -/
inductive Inside where
  | plain
  | escape
  | digits (owed value : Nat)
  | highRead (high : Nat)
  | highBackslash (high : Nat)
  | lowDigits (high owed value : Nat)
  deriving DecidableEq, Repr

def escaped? (c : Char) : Option Char :=
  if c = '"' ∨ c = '\\' ∨ c = '/' then some c
  else if c = 'b' then some '\x08'
  else if c = 'f' then some '\x0c'
  else if c = 'n' then some '\n'
  else if c = 'r' then some '\r'
  else if c = 't' then some '\t'
  else none

def isHigh (code : Nat) : Bool := 0xd800 ≤ code && code < 0xdc00

def isLow (code : Nat) : Bool := 0xdc00 ≤ code && code < 0xe000

def pairCode (high low : Nat) : Nat := 0x10000 + (high - 0xd800) * 0x400 + (low - 0xdc00)

def pushChar (c : Char) (read : Read (List Char)) : Read (List Char) :=
  read.map (fun (text, rest) => (c :: text, rest))

def endsEscape (rest : List Char) : Bool := (String.ofList (rest.take 4)).utf8ByteSize < 4

def readString : Inside → List Char → Read (List Char)
  | _, [] => .error ⟨.endInString, []⟩
  | .plain, c :: rest =>
    if c = '"' then .ok ([], rest)
    else if c = '\\' then readString .escape rest
    else if c < ' ' then .error ⟨.controlCharacter, c :: rest⟩
    else pushChar c (readString .plain rest)
  | .escape, c :: rest =>
    match escaped? c with
    | some d => pushChar d (readString .plain rest)
    | none =>
      if c ≠ 'u' then .error ⟨.invalidEscape, c :: rest⟩
      else if endsEscape rest then .error ⟨.endInString, []⟩
      else readString (.digits 4 0) rest
  | .digits owed value, c :: rest =>
    match Text.Hex.digitValue? c with
    | none => .error ⟨.invalidEscape, c :: rest⟩
    | some digit =>
      let code := 16 * value + digit
      if 1 < owed then readString (.digits (owed - 1) code) rest
      else if isHigh code then readString (.highRead code) rest
      else if isLow code then .error ⟨.loneSurrogate, c :: rest⟩
      else pushChar (Char.ofNat code) (readString .plain rest)
  | .highRead high, c :: rest =>
    if c = '\\' then readString (.highBackslash high) rest else .error ⟨.endOfHexEscape, c :: rest⟩
  | .highBackslash high, c :: rest =>
    if c ≠ 'u' then .error ⟨.endOfHexEscape, c :: rest⟩
    else if endsEscape rest then .error ⟨.endInString, []⟩
    else readString (.lowDigits high 4 0) rest
  | .lowDigits high owed value, c :: rest =>
    match Text.Hex.digitValue? c with
    | none => .error ⟨.invalidEscape, c :: rest⟩
    | some digit =>
      let code := 16 * value + digit
      if 1 < owed then readString (.lowDigits high (owed - 1) code) rest
      else if isLow code then pushChar (Char.ofNat (pairCode high code)) (readString .plain rest)
      else .error ⟨.loneSurrogate, c :: rest⟩

def readText (text : List Char) : Read String :=
  (readString .plain text).map (fun (chars, rest) => (String.ofList chars, rest))

mutual

/-- Reads a value in which containers that hold something may nest `room` deep. Each call spends a unit of
`fuel`; two units a character are enough. -/
def readValue (fuel room : Nat) (text : List Char) : Read Value :=
  match fuel with
  | 0 => .error ⟨.recursionLimit, text⟩
  | fuel + 1 =>
    match skipBlanks text with
    | [] => .error ⟨.endInValue, []⟩
    | '"' :: rest => (readText rest).map (fun (text, rest) => (.string text, rest))
    | '[' :: rest =>
      match skipBlanks rest with
      | [] => .error ⟨.endInList, []⟩
      | ']' :: rest => .ok (.array [], rest)
      | rest => (readItems fuel room rest).map (fun (items, rest) => (.array items, rest))
    | '\x7b' :: rest =>
      match skipBlanks rest with
      | [] => .error ⟨.endInObject, []⟩
      | '\x7d' :: rest => .ok (.object [], rest)
      | rest => (readMembers fuel room rest).map (fun (members, rest) => (.object members, rest))
    | 't' :: rest => readWord (.bool true) "rue".toList rest
    | 'f' :: rest => readWord (.bool false) "alse".toList rest
    | 'n' :: rest => readWord .null "ull".toList rest
    | 'N' :: rest => readWord (.number "NaN") "aN".toList rest
    | 'I' :: rest => readWord (.number "Infinity") "nfinity".toList rest
    | c :: rest => if c.isDigit ∨ c = '-' then readNumber (c :: rest) else .error ⟨.expectedValue, c :: rest⟩

def readItems (fuel room : Nat) (text : List Char) : Read (List Value) :=
  match fuel, room with
  | 0, _ => .error ⟨.recursionLimit, text⟩
  | _ + 1, 0 => .error ⟨.recursionLimit, text⟩
  | fuel + 1, room + 1 =>
    match readValue fuel room text with
    | .error stop => .error stop
    | .ok (item, rest) =>
      match skipBlanks rest with
      | [] => .error ⟨.endInList, []⟩
      | ']' :: rest => .ok ([item], rest)
      | ',' :: rest =>
        match skipBlanks rest with
        | [] => .error ⟨.endInValue, []⟩
        | ']' :: rest => .error ⟨.trailingComma, ']' :: rest⟩
        | rest => (readItems fuel (room + 1) rest).map (fun (items, rest) => (item :: items, rest))
      | rest => .error ⟨.expectedListComma, rest⟩

def readMembers (fuel room : Nat) (text : List Char) : Read Members :=
  match fuel with
  | 0 => .error ⟨.recursionLimit, text⟩
  | fuel + 1 =>
    match skipBlanks text with
    | '"' :: rest =>
      match readText rest with
      | .error stop => .error stop
      | .ok (key, rest) =>
        match skipBlanks rest with
        | [] => .error ⟨.endInObject, []⟩
        | ':' :: rest =>
          match room, skipBlanks rest with
          | _, [] => .error ⟨.endInValue, []⟩
          | 0, rest => .error ⟨.recursionLimit, rest⟩
          | room + 1, rest =>
            match readValue fuel room rest with
            | .error stop => .error stop
            | .ok (value, rest) =>
              match skipBlanks rest with
              | [] => .error ⟨.endInObject, []⟩
              | '\x7d' :: rest => .ok ([(key, value)], rest)
              | ',' :: rest =>
                match skipBlanks rest with
                | [] => .error ⟨.endInValue, []⟩
                | '\x7d' :: rest => .error ⟨.trailingComma, '\x7d' :: rest⟩
                | rest =>
                  (readMembers fuel (room + 1) rest).map
                    (fun (members, rest) => ((key, value) :: members, rest))
              | rest => .error ⟨.expectedObjectComma, rest⟩
        | rest => .error ⟨.expectedColon, rest⟩
    | rest => .error ⟨.keyNotString, rest⟩

end

def readDocument (room : Nat) (text : List Char) : Except Stop Value :=
  match readValue (2 * text.length + 2) room text with
  | .error stop => .error stop
  | .ok (value, rest) =>
    match skipBlanks rest with
    | [] => .ok value
    | rest => .error ⟨.trailingCharacters, rest⟩

structure SyntaxError where
  problem : Problem
  line : Nat
  column : Nat
  deriving DecidableEq, Repr

def SyntaxError.message (error : SyntaxError) : String :=
  error.problem.message ++ " at line " ++ toString error.line ++ " column " ++ toString error.column

def endPosition (text : List Char) : Nat × Nat :=
  text.foldl (fun (line, column) c => if c = '\n' then (line + 1, 0) else (line, column + c.utf8Size)) (1, 0)

/-- An offending line feed counts as read; at any other character the column is that of its first byte, from
one on, and at the end of the text the number of bytes in the last line. -/
def Stop.locate (stop : Stop) (text : List Char) : SyntaxError :=
  let (line, column) := endPosition (text.take (text.length - stop.rest.length))
  match stop.rest with
  | [] => ⟨stop.problem, line, column⟩
  | '\n' :: _ => ⟨stop.problem, line + 1, 0⟩
  | _ => ⟨stop.problem, line, column + 1⟩

def parseWithin (room : Nat) (text : String) : Except SyntaxError Value :=
  (readDocument room text.toList).mapError (·.locate text.toList)

/-- A document may nest two hundred containers, and one more that is empty. -/
def parse (text : String) : Except SyntaxError Value := parseWithin 200 text

end GuestForge.Json
