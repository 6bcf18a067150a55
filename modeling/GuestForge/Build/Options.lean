import GuestForge.Path
import GuestForge.Text.Blank
import GuestForge.Text.Fields
set_option autoImplicit false

/-!
# Options of a run and of a build

A configuration is what the user asks of a whole run. A build of one package is given the part that concerns
the builder: the features, and the root of the container to build in, if any.
-/
namespace GuestForge

structure Configuration where
  features : List String := []
  allFeatures : Bool := false
  noDefaultFeatures : Bool := false
  docker : Bool := false
  deriving DecidableEq, Repr

structure GuestOptions where
  features : List String := []
  dockerRoot : Option Path := none
  deriving DecidableEq

def Configuration.guestOptions (configuration : Configuration) (root : Path) : GuestOptions :=
  ⟨configuration.features, if configuration.docker then some root else none⟩

def splitFeatures (values : List String) : List String :=
  values.flatMap fun value =>
    (Text.fields (fun c => c == ',' || Text.Blank.isBlank c) value.toList).map String.ofList

end GuestForge
