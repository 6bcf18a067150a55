import GuestForge.Publish.Identifiers
import GuestForge.Workspace.Package
set_option autoImplicit false

/-!
# Publishing guests
-/
namespace GuestForge

structure PublishedGuest where
  package : String
  elfPath : Path
  imageId : ImageId
  imageIdPath : Path
  legacyIdPath : Option Path
  deriving DecidableEq

def PublishedGuest.toJson (guest : PublishedGuest) : Json.Value :=
  .object [("package", .string guest.package), ("elf_path", .string guest.elfPath.toString),
    ("image_id_kind", .string guest.imageId.context.name),
    ("image_id_path", .string guest.imageIdPath.toString),
    ("image_id", .string guest.imageId.digest.toHex),
    ("legacy_image_id_path", .ofOption (fun path => .string path.toString) guest.legacyIdPath)]

def publishGuest (package : Package) (guest : BuiltGuest) : HostM PublishedGuest := do
  let directory := package.publishDirectory
  let elfPath ← Publish.elf guest directory
  let (legacyIdPath, imageIdPath) ← Publish.identifiers guest (Publish.base directory guest)
  pure ⟨package.name, elfPath, guest.imageId, imageIdPath, legacyIdPath⟩

end GuestForge
