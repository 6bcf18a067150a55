import GuestForge.Text.Hex
set_option autoImplicit false

/-!
# Digests

A digest is the hash of a guest binary, thirty-two bytes long. The digest of zeros marks a legacy identifier
that does not apply.
-/
namespace GuestForge

structure Digest where
  bytes : List UInt8
  length_bytes : bytes.length = 32
  deriving DecidableEq

namespace Digest

inductive Error where
  | notHex (position : Nat)
  | wrongLength (length : Nat)
  deriving DecidableEq, Repr

def Error.message : Error → String
  | .notHex position =>
    "non-hexadecimal number found in fromhex() arg at position " ++ ToString.toString position
  | .wrongLength length => "digest must be 32 bytes, got " ++ ToString.toString length

def ofBytes (bytes : List UInt8) : Except Error Digest :=
  if h : bytes.length = 32 then .ok ⟨bytes, h⟩ else .error (.wrongLength bytes.length)

def ofHex (text : String) : Except Error Digest :=
  match Text.Hex.decode text.toList with
  | .error position => .error (.notHex position)
  | .ok bytes => ofBytes bytes

def toHex (digest : Digest) : String := String.ofList (Text.Hex.encode digest.bytes)

def zero : Digest := ⟨List.replicate 32 0, rfl⟩

end Digest

end GuestForge
