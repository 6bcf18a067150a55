import GuestForge.Digest
import GuestForge.Path
set_option autoImplicit false

/-!
# Image identifiers and built guests

An image identifier is a digest together with the execution context it applies to, which also decides the
extension of the file that holds it.
-/
namespace GuestForge

inductive Context where
  | user
  | kernel
  deriving DecidableEq, Repr

namespace Context

def name : Context → String
  | .user => "user"
  | .kernel => "kernel"

def ofName? (text : String) : Option Context :=
  if text = "user" then some .user else if text = "kernel" then some .kernel else none

def suffix : Context → String
  | .user => ".uid"
  | .kernel => ".kid"

def other : Context → Context
  | .user => .kernel
  | .kernel => .user

theorem ofName?_name (context : Context) : ofName? context.name = some context := by
  cases context <;> rfl

end Context

structure ImageId where
  context : Context
  digest : Digest
  deriving DecidableEq

/-- A binary that a builder reports. The legacy identifier is the zero digest where it does not apply. -/
structure BuiltGuest where
  path : Path
  legacyId : Digest
  imageId : ImageId
  deriving DecidableEq

end GuestForge
