import GuestForge.Publish.Elf
set_option autoImplicit false

/-!
# Identifier files

Beside a published binary stand a file `.uid` or `.kid` with the image identifier, by its context, and a file
`.iid` with the legacy identifier if that applies. They hold the bytes of the digest and nothing else. Files of
an earlier run that no longer apply are removed.
-/
namespace GuestForge.Publish
open HostM

def writeDigest (path : Path) (digest : Digest) : HostM Path := do
  orElse (writeFile path digest.bytes) fun error => fail (.bake (.filesystem (.write path error) path))
  pure path

def removeStale (path : Path) : HostM Unit :=
  orElse (do if ← pathExists path then unlink path) fun error =>
    fail (.bake (.filesystem (.remove path error) path))

def identifierPaths (path : Path) (guest : BuiltGuest) : Except Path.NameError (Path × Path) := do
  let own ← path.withExtension guest.imageId.context.suffix
  let other ← path.withExtension guest.imageId.context.other.suffix
  .ok (own, other)

def identifiers (guest : BuiltGuest) (path : Path) : HostM (Option Path × Path) := do
  let legacyPath ← sibling path ".iid"
  let legacy ←
    if guest.legacyId ≠ Digest.zero then some <$> writeDigest legacyPath guest.legacyId
    else do
      removeStale legacyPath
      pure none
  let (own, other) ← ofValue .name (identifierPaths path guest)
  let written ← writeDigest own guest.imageId.digest
  removeStale other
  pure (legacy, written)

end GuestForge.Publish
