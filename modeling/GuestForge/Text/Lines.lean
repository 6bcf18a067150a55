set_option autoImplicit false

/-!
# Line ends

Texts come with line feeds, carriage returns or both at the ends of their lines.
-/
namespace GuestForge.Text

def normalizeLines : List Char → List Char
  | '\r' :: '\n' :: rest => '\n' :: normalizeLines rest
  | '\r' :: rest => '\n' :: normalizeLines rest
  | c :: rest => c :: normalizeLines rest
  | [] => []

end GuestForge.Text
