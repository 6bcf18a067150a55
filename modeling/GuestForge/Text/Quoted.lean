import GuestForge.Text.Hex
import GuestForge.Text.Printable
set_option autoImplicit false

/-!
# Texts quoted in messages

A quoted text stands between single quotes, or between double ones if it holds a single quote and no double
one. Backslashes, the quote, line feeds, carriage returns and tabs are written as two characters, and every
other character that is not printable by its code point in two, four or eight hexadecimal digits.
-/
namespace GuestForge.Text.Quoted
open Hex (digitChar)

def fixedHex (n : Nat) : Nat → List Char
  | 0 => []
  | digits + 1 => digitChar (n / Nat.pow 16 digits % 16) :: fixedHex n digits

def quoteFor (text : List Char) : Char := if '\'' ∈ text ∧ '"' ∉ text then '"' else '\''

def escapeCode (code : Nat) : List Char :=
  if code < 0x100 then '\\' :: 'x' :: fixedHex code 2
  else if code < 0x10000 then '\\' :: 'u' :: fixedHex code 4
  else '\\' :: 'U' :: fixedHex code 8

def escape (quote c : Char) : List Char :=
  if c = quote ∨ c = '\\' then ['\\', c]
  else if c = '\n' then ['\\', 'n']
  else if c = '\r' then ['\\', 'r']
  else if c = '\t' then ['\\', 't']
  else if Printable.isPrintable c then [c]
  else escapeCode c.toNat

def encode (text : List Char) : List Char :=
  let quote := quoteFor text
  quote :: (text.flatMap (escape quote) ++ [quote])

end GuestForge.Text.Quoted

namespace GuestForge

def quoted (text : String) : String := String.ofList (Text.Quoted.encode text.toList)

end GuestForge
