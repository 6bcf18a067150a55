import GuestForge.Json.Value
import GuestForge.Text.Quoted
set_option autoImplicit false

/-!
# Writing JSON

A document is written on one line, or with two more spaces of indentation a level and each item and member on
a line of its own. Characters outside the printable part of ASCII stand as they are, or as the escapes of
their UTF-16 units.
-/
namespace GuestForge.Json

inductive Layout where
  | compact
  | indented
  deriving DecidableEq, Repr

inductive Charset where
  | unicode
  | ascii
  deriving DecidableEq, Repr

def unitEscape (unit : Nat) : List Char := '\\' :: 'u' :: Text.Quoted.fixedHex unit 4

def codeEscape (code : Nat) : List Char :=
  if code < 0x10000 then unitEscape code
  else unitEscape (0xd800 + (code - 0x10000) / 0x400) ++ unitEscape (0xdc00 + (code - 0x10000) % 0x400)

def escapeChar (charset : Charset) (c : Char) : List Char :=
  if c = '"' ∨ c = '\\' then ['\\', c]
  else if c = '\x08' then ['\\', 'b']
  else if c = '\x0c' then ['\\', 'f']
  else if c = '\n' then ['\\', 'n']
  else if c = '\r' then ['\\', 'r']
  else if c = '\t' then ['\\', 't']
  else if c < ' ' ∨ (charset = .ascii ∧ '~' < c) then codeEscape c.toNat
  else [c]

def writeString (charset : Charset) (text : String) : List Char :=
  '"' :: (text.toList.flatMap (escapeChar charset) ++ ['"'])

def Layout.lineStart (layout : Layout) (depth : Nat) : List Char :=
  match layout with
  | .compact => []
  | .indented => '\n' :: List.replicate (2 * depth) ' '

def Layout.colon : Layout → List Char
  | .compact => [':']
  | .indented => [':', ' ']

mutual

def writeValue (layout : Layout) (charset : Charset) (depth : Nat) : Value → List Char
  | .null => "null".toList
  | .bool true => "true".toList
  | .bool false => "false".toList
  | .number text => text.toList
  | .string text => writeString charset text
  | .array [] => "[]".toList
  | .array (item :: items) =>
    '[' :: (layout.lineStart (depth + 1) ++ writeValue layout charset (depth + 1) item ++
      writeItems layout charset (depth + 1) items ++ layout.lineStart depth ++ [']'])
  | .object [] => ['\x7b', '\x7d']
  | .object ((key, value) :: members) =>
    '\x7b' :: (layout.lineStart (depth + 1) ++ writeString charset key ++ layout.colon ++
      writeValue layout charset (depth + 1) value ++ writeMembers layout charset (depth + 1) members ++
      layout.lineStart depth ++ ['\x7d'])

def writeItems (layout : Layout) (charset : Charset) (depth : Nat) : List Value → List Char
  | [] => []
  | item :: items =>
    ',' :: (layout.lineStart depth ++ writeValue layout charset depth item ++
      writeItems layout charset depth items)

def writeMembers (layout : Layout) (charset : Charset) (depth : Nat) : Members → List Char
  | [] => []
  | (key, value) :: members =>
    ',' :: (layout.lineStart depth ++ writeString charset key ++ layout.colon ++
      writeValue layout charset depth value ++ writeMembers layout charset depth members)

end

def write (layout : Layout) (charset : Charset) (value : Value) : String :=
  String.ofList (writeValue layout charset 0 value)

end GuestForge.Json
