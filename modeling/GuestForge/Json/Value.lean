set_option autoImplicit false

/-!
# JSON values

Objects keep their members in order, and each member whether or not a later one has its key; a look-up sees
the last. Numbers keep their text.
-/
namespace GuestForge.Json

inductive Value where
  | null
  | bool (b : Bool)
  | number (text : String)
  | string (text : String)
  | array (items : List Value)
  | object (members : List (String × Value))
  deriving Inhabited, BEq, Repr

namespace Value

def ofInt (n : Int) : Value := .number (toString n)

def ofStrings (texts : List String) : Value := .array (texts.map .string)

def ofOption {α : Type} (write : α → Value) : Option α → Value
  | none => .null
  | some a => write a

end Value

abbrev Members := List (String × Value)

def lookup (members : Members) (key : String) : Option Value :=
  (members.reverse.find? (fun member => member.1 == key)).map Prod.snd

def sortedKeys (members : Members) : List String :=
  (members.map Prod.fst).eraseDups.mergeSort (fun a b => a ≤ b)

end GuestForge.Json
