set_option autoImplicit false

/-!
# Bytes written as hexadecimal digits

`encode` writes two lower-case digits a byte. `decode` also reads upper-case digits and lets blanks
stand before, between and after pairs, never inside one; where it refuses a text it gives the index of
the character to blame.
-/
namespace GuestForge.Text.Hex

def isGap (c : Char) : Bool := c == ' ' || ('\t' ≤ c && c ≤ '\r')

def digitValue? (c : Char) : Option Nat :=
  if '0' ≤ c ∧ c ≤ '9' then some (c.toNat - 48)
  else if 'a' ≤ c ∧ c ≤ 'f' then some (c.toNat - 87)
  else if 'A' ≤ c ∧ c ≤ 'F' then some (c.toNat - 55)
  else none

def digitChar (n : Nat) : Char := Char.ofNat (if n < 10 then 48 + n else 87 + n)

def encodeByte (b : UInt8) : List Char := [digitChar (b.toNat / 16), digitChar (b.toNat % 16)]

def encode (bytes : List UInt8) : List Char := bytes.flatMap encodeByte

/-- Reads pairs, counting characters from `position`; the error is the index of the character that is
no digit, or of the end of the text where a pair lacks its second digit. -/
def decodeFrom (position : Nat) : List Char → Except Nat (List UInt8)
  | [] => .ok []
  | [c] => if isGap c then .ok [] else
    match digitValue? c with
    | none => .error position
    | some _ => .error (position + 1)
  | c :: d :: rest => if isGap c then decodeFrom (position + 1) (d :: rest) else
    match digitValue? c, digitValue? d with
    | none, _ => .error position
    | some _, none => .error (position + 1)
    | some high, some low => (decodeFrom (position + 2) rest).map (UInt8.ofNat (16 * high + low) :: ·)

/-- A character outside ASCII is blamed before any other. -/
def decode (text : List Char) : Except Nat (List UInt8) :=
  match text.findIdx? (fun c => 128 ≤ c.toNat) with
  | some position => .error position
  | none => decodeFrom 0 text

end GuestForge.Text.Hex
