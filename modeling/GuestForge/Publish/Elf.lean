import GuestForge.Host
set_option autoImplicit false

/-!
# Publishing binaries

A built binary is copied into the publish directory of its package under its own name, with the extension
`.elf`. The names of its identifier files derive from the same base.
-/
namespace GuestForge.Publish
open HostM

def base (directory : Path) (guest : BuiltGuest) : Path := directory.join (Path.ofString guest.path.fileName)

def sibling (path : Path) (suffix : String) : HostM Path := ofValue .name (path.withExtension suffix)

def elf (guest : BuiltGuest) (directory : Path) : HostM Path := do
  let target ← sibling (base directory guest) ".elf"
  orElse (makeDirectories target.parent) fun error =>
    fail (.bake (.filesystem (.createDirectory target.parent error) target.parent))
  orElse (copyFile guest.path target) fun error =>
    fail (.bake (.filesystem (.copy guest.path target error) target))
  pure target

end GuestForge.Publish
