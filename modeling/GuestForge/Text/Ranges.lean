set_option autoImplicit false

/-!
# Ranges of code points

A set of characters given by closed ranges of code points in ascending order.
-/
namespace GuestForge.Text

abbrev Ranges := List (Nat × Nat)

/-- The ranges are in ascending order, so the search ends at the first that reaches up to `code`. -/
def Ranges.holds (code : Nat) : Ranges → Bool
  | [] => false
  | (low, high) :: rest => if code ≤ high then low ≤ code else Ranges.holds code rest

end GuestForge.Text
