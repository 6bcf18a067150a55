import GuestForge.Build.External
import GuestForge.Publish.Guest
import GuestForge.Workspace.Selection
set_option autoImplicit false

/-!
# Baking a workspace

A run builds the selected guest packages one after the other, in workspace order, and publishes what each build
reports before it starts the next. The first failure ends the run; what was published stays. A session keeps,
besides the host, the requests that were made to the builder.
-/
namespace GuestForge

structure Request where
  package : Package
  targetDirectory : Path
  options : GuestOptions

structure Session where
  host : Host
  requests : List Request := []

abbrev BakeM := ExceptT Fault (StateM Session)

def BakeM.onHost {α : Type} (act : HostM α) : BakeM α := fun session =>
  let (answer, host) := act.run.run session.host
  (answer, { session with host := host })

structure BakeResult where
  targetDirectory : Path
  packages : List String
  guests : List PublishedGuest
  deriving DecidableEq

def BakeResult.toJson (result : BakeResult) : Json.Value :=
  .object [("target_dir", .string result.targetDirectory.toString),
    ("packages", .ofStrings result.packages),
    ("guests", .array (result.guests.map PublishedGuest.toJson))]

/-- Makes one request. A fault of the builder that is no bake error becomes a build error of the package. -/
def buildGuests (builder : Builder) (package : Package) (targetDirectory : Path) (options : GuestOptions) :
    BakeM (List BuiltGuest) := do
  modify fun session => { session with requests := session.requests ++ [⟨package, targetDirectory, options⟩] }
  tryCatch (BakeM.onHost (builder package targetDirectory options)) fun
    | .bake error => throw (.bake error)
    | fault =>
      throw (.bake (.build (.raised package.name fault.message) (some package.name) none none))

def bakePackage (builder : Builder) (targetDirectory : Path) (options : GuestOptions) (package : Package) :
    BakeM (List PublishedGuest) := do
  let guests ← buildGuests builder package targetDirectory options
  guests.mapM fun guest => BakeM.onHost (publishGuest package guest)

/-- Bakes the selected guests of a workspace. Containers, if asked for, have their root in `root`, or else in the
current directory. -/
def bake (workspace : Workspace) (builder : Builder) (configuration : Configuration) (selection : Selection)
    (root : Option Path) : BakeM BakeResult := do
  let current := (← get).host.currentDirectory
  let options := configuration.guestOptions (root.getD current)
  let packages := workspace.guests selection
  let batches ← packages.mapM (bakePackage builder workspace.guestTargetDirectory options)
  pure ⟨workspace.guestTargetDirectory, packages.map Package.name, batches.flatten⟩

end GuestForge
