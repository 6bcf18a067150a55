import GuestForge.Error
set_option autoImplicit false

/-!
# Build reports

A builder reports a JSON array with one object per guest it built: the path of the binary, the legacy identifier
unless it does not apply, and the image identifier. A report is read as a whole or not at all.
-/
namespace GuestForge
open Schema

def ImageId.ofJson : Decoder ImageId := record fun members =>
  ImageId.mk <$> required members "kind" Schema.context <*> required members "digest" Schema.digest

def BuiltGuest.ofJson : Decoder BuiltGuest := record fun members =>
  (fun path legacy imageId => BuiltGuest.mk path (legacy.getD Digest.zero) imageId)
    <$> required members "path" Schema.path
    <*> optional members "image_id" none (nullable Schema.digest)
    <*> required members "v2_image_id" ImageId.ofJson

def parseReport (text : String) (package : Option String) : Except BakeError (List BuiltGuest) :=
  (readDocument (list BuiltGuest.ofJson) text).mapError fun error =>
    .build (.badReport package error) package none none

end GuestForge
