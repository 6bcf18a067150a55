import GuestForge.Schema
set_option autoImplicit false

/-!
# Packages of a workspace

What a metadata document says about packages and the workspace around them, as far as guests need it. A
package builds guests if its metadata table has the key `risc0` and one of its targets is a binary.
-/
namespace GuestForge
open Schema

structure Target where
  name : String
  kinds : List String
  source : Option Path

structure Package where
  id : String
  name : String
  version : String
  manifest : Path
  /-- The author's own table, if the manifest has one. -/
  table : Option Json.Members
  targets : List Target

structure Workspace where
  packages : List Package
  members : List String
  /-- Not every document lists them. -/
  defaultMembers : Option (List String)
  targetDirectory : Path
  root : Path

namespace Target

def ofJson : Decoder Target := record fun members =>
  Target.mk <$> required members "name" string
    <*> optional members "kind" [] (list string)
    <*> optional members "src_path" none (nullable path)

def isBinary (target : Target) : Bool := "bin" ∈ target.kinds

end Target

namespace Package

def ofJson : Decoder Package := record fun members =>
  Package.mk <$> required members "id" string
    <*> required members "name" string
    <*> optional members "version" "0.0.0" string
    <*> required members "manifest_path" path
    <*> optional members "metadata" none (nullable Schema.table)
    <*> optional members "targets" [] (list Target.ofJson)

def directory (package : Package) : Path := package.manifest.parent

def hasGuestTable (package : Package) : Bool :=
  match package.table with
  | some members => (Json.lookup members "risc0").isSome
  | none => false

def hasBinary (package : Package) : Bool := package.targets.any Target.isBinary

def isGuest (package : Package) : Bool := package.hasGuestTable && package.hasBinary

def publishDirectory (package : Package) : Path := package.directory.join (Path.ofString "elfs")

end Package

namespace Workspace

def ofJson : Decoder Workspace := record fun members =>
  Workspace.mk <$> optional members "packages" [] (list Package.ofJson)
    <*> optional members "workspace_members" [] (list string)
    <*> optional members "workspace_default_members" none (nullable (list string))
    <*> required members "target_directory" path
    <*> required members "workspace_root" path

/-- The scratch directory that all guest builds of a run share. -/
def guestTargetDirectory (workspace : Workspace) : Path :=
  workspace.targetDirectory.join (Path.ofString "guest")

end Workspace

end GuestForge
