set_option autoImplicit false

/-!
# The compatibility bundle

A precompiled guest for the first version of the virtual machine, shipped with the program: its binary and the
file with its kernel identifier.
-/
namespace GuestForge.CompatBundle

def elf : List UInt8 :=
  [0x7f, 0x45, 0x4c, 0x46, 0x1, 0x1, 0x1, 0x0, 0x0, 0x0, 0x0, 0x0, 0x0, 0x0, 0x0, 0x0, 0x2, 0x0, 0xef,
    0xbf, 0xbd, 0x0, 0x1, 0x0, 0x0, 0x0, 0x0, 0x0, 0x20, 0x0, 0x34, 0x0, 0x0, 0x0, 0x0, 0x0, 0x0, 0x0,
    0x0, 0x0, 0x0, 0x0, 0x34, 0x0, 0x20, 0x0, 0x0, 0x0, 0x28, 0x0, 0x0, 0x0, 0x0, 0x0]

def kernelId : List UInt8 :=
  [0x5e, 0xb, 0x27, 0xef, 0xbf, 0xbd, 0xef, 0xbf, 0xbd, 0x4c, 0xd, 0x6f, 0x18, 0xef, 0xbf, 0xbd, 0x71,
    0xef, 0xbf, 0xbd, 0x4, 0xef, 0xbf, 0xbd, 0x3a, 0xef, 0xbf, 0xbd, 0xef, 0xbf, 0xbd, 0x60, 0x1f, 0xef,
    0xbf, 0xbd, 0x47, 0xef, 0xbf, 0xbd, 0x35, 0xef, 0xbf, 0xbd, 0x7d, 0x12, 0xef, 0xbf, 0xbd, 0x59, 0xef,
    0xbf, 0xbd, 0x3, 0xef, 0xbf, 0xbd, 0x21]

end GuestForge.CompatBundle
