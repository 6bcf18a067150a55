set_option autoImplicit false

/-!
# Blank characters

Unicode white space together with the four information separators of ASCII, and the trimming of texts by it.
-/
namespace GuestForge.Text.Blank

/-- Tab to carriage return, the information separators, the space, and the spaces and line breaks outside
ASCII. The zero-width space is none of them. -/
def isBlank (c : Char) : Bool :=
  let code := c.toNat
  (0x9 ≤ code && code ≤ 0xd) || (0x1c ≤ code && code ≤ 0x20) || code == 0x85 || code == 0xa0 ||
    code == 0x1680 || (0x2000 ≤ code && code ≤ 0x200a) || code == 0x2028 || code == 0x2029 ||
    code == 0x202f || code == 0x205f || code == 0x3000

def trimEnd (text : List Char) : List Char := (text.reverse.dropWhile isBlank).reverse

def trim (text : List Char) : List Char := trimEnd (text.dropWhile isBlank)

end GuestForge.Text.Blank
