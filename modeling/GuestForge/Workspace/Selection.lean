import GuestForge.Text.Glob
import GuestForge.Workspace.Package
set_option autoImplicit false

/-!
# Selecting packages

The selection flags split the packages of a workspace into included and excluded ones; the guests among the
included are what a run bakes. Every list keeps the order of the workspace.
-/
namespace GuestForge

structure Selection where
  /-- Patterns for the names to include. -/
  packages : List String := []
  wholeWorkspace : Bool := false
  /-- Patterns for the names to exclude. -/
  exclude : List String := []
  deriving DecidableEq, Repr

namespace Selection

inductive Mode where
  | default
  | all
  | optOut
  | packages
  deriving DecidableEq, Repr

def Mode.name : Mode → String
  | .default => "default"
  | .all => "all"
  | .optOut => "opt-out"
  | .packages => "packages"

/-- Patterns to include count only without the workspace flag, patterns to exclude only without those. -/
def mode (selection : Selection) : Mode :=
  if selection.wholeWorkspace then if selection.exclude ≠ [] then .optOut else .all
  else if selection.packages ≠ [] then .packages
  else if selection.exclude ≠ [] then .optOut
  else .default

def matchesAny (patterns : List String) (name : String) : Bool :=
  patterns.any fun pattern => Text.Glob.accepts pattern name

/-- The ids that the mode starts from. A list of default members counts only if it names one. -/
def baseIds (workspace : Workspace) (selection : Selection) : List String :=
  match selection.mode with
  | .packages =>
    (workspace.packages.filter fun package => matchesAny selection.packages package.name).map Package.id
  | .default => match workspace.defaultMembers with
    | some (id :: ids) => id :: ids
    | _ => workspace.members
  | _ => workspace.members

def includes (workspace : Workspace) (selection : Selection) (package : Package) : Bool :=
  (baseIds workspace selection).contains package.id &&
    !(selection.mode == .optOut && matchesAny selection.exclude package.name)

end Selection

namespace Workspace

def included (workspace : Workspace) (selection : Selection) : List Package :=
  workspace.packages.filter (selection.includes workspace)

def excluded (workspace : Workspace) (selection : Selection) : List Package :=
  workspace.packages.filter fun package => !selection.includes workspace package

def guests (workspace : Workspace) (selection : Selection) : List Package :=
  (workspace.included selection).filter Package.isGuest

end Workspace

end GuestForge
