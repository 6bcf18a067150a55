import GuestForge.Text.Quoted
set_option autoImplicit false

/-!
# Texts from bytes

Bytes that are UTF-8 denote a text. Others are refused at the first place where no character can be read: at a
byte that starts none, or at the start of a character that breaks off, either at a byte that does not continue it
or at the end.
-/
namespace GuestForge.Text.Utf8

inductive Problem where
  | badStart
  | badContinuation
  | unexpectedEnd
  deriving DecidableEq, Repr

def Problem.message : Problem → String
  | .badStart => "invalid start byte"
  | .badContinuation => "invalid continuation byte"
  | .unexpectedEnd => "unexpected end of data"

structure Error where
  problem : Problem
  first : UInt8
  position : Nat
  count : Nat
  deriving DecidableEq, Repr

def Error.message (error : Error) : String :=
  let place :=
    if error.count = 1 then
      "byte 0x" ++ String.ofList (Quoted.fixedHex error.first.toNat 2) ++ " in position " ++
        toString error.position
    else
      "bytes in position " ++ toString error.position ++ "-" ++
        toString (error.position + error.count - 1)
  "'utf-8' codec can't decode " ++ place ++ ": " ++ error.problem.message

/-- The start of a character: its first byte and how many bytes it has so far, the code that they give, how many
bytes are owed, and the range of the next one. -/
structure Partial where
  first : UInt8
  read : Nat
  code : Nat
  owed : Nat
  low : UInt8
  high : UInt8

/-- What a byte starts outside ASCII. The second byte has a narrower range where the shortest form, surrogates or
the last code point set bounds. -/
def startedBy? (byte : UInt8) : Option Partial :=
  let started (owed code : Nat) (low high : UInt8) : Option Partial := some ⟨byte, 1, code, owed, low, high⟩
  if byte < 0xc2 then none
  else if byte < 0xe0 then started 1 (byte.toNat - 0xc0) 0x80 0xbf
  else if byte = 0xe0 then started 2 0 0xa0 0xbf
  else if byte = 0xed then started 2 0xd 0x80 0x9f
  else if byte < 0xf0 then started 2 (byte.toNat - 0xe0) 0x80 0xbf
  else if byte = 0xf0 then started 3 0 0x90 0xbf
  else if byte < 0xf4 then started 3 (byte.toNat - 0xf0) 0x80 0xbf
  else if byte = 0xf4 then started 3 4 0x80 0x8f
  else none

def Partial.brokenOff (started : Partial) (problem : Problem) (position : Nat) : Error :=
  ⟨problem, started.first, position - started.read, started.read⟩

def Partial.push (started : Partial) (byte : UInt8) : Partial :=
  { started with
    read := started.read + 1, code := 64 * started.code + (byte.toNat - 0x80), owed := started.owed - 1,
    low := 0x80, high := 0xbf }

def decodeFrom (position : Nat) : Option Partial → List UInt8 → Except Error (List Char)
  | none, [] => .ok []
  | some started, [] => .error (started.brokenOff .unexpectedEnd position)
  | none, byte :: rest =>
    if byte < 0x80 then (decodeFrom (position + 1) none rest).map (Char.ofNat byte.toNat :: ·)
    else match startedBy? byte with
      | none => .error ⟨.badStart, byte, position, 1⟩
      | started => decodeFrom (position + 1) started rest
  | some started, byte :: rest =>
    if byte < started.low ∨ started.high < byte then .error (started.brokenOff .badContinuation position)
    else
      let started := started.push byte
      if started.owed = 0 then (decodeFrom (position + 1) none rest).map (Char.ofNat started.code :: ·)
      else decodeFrom (position + 1) (some started) rest

def decode (bytes : List UInt8) : Except Error String := (decodeFrom 0 none bytes).map String.ofList

end GuestForge.Text.Utf8
