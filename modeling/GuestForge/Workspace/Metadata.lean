import GuestForge.Build.Command
import GuestForge.Host
import GuestForge.Text.Blank
set_option autoImplicit false

/-!
# Resolving a workspace

The package manager prints the metadata document of a workspace; reading it gives the workspace.
-/
namespace GuestForge

def parseMetadata (text : String) : Except BakeError Workspace :=
  (Schema.readDocument Workspace.ofJson text).mapError fun error => .metadata (.badDocument error)

open HostM in
def resolveWorkspace (manifest : Option Path) (configuration : Option Configuration) (command : String) :
    HostM Workspace := do
  let words ← ofValue .words (metadataCommand command manifest configuration)
  let ended ← orElse (startProcess ⟨words, none⟩) fun error => fail (.bake (.metadata (.notStarted error)))
  if ended.code ≠ 0 then
    let diagnostics := String.ofList (Text.Blank.trim (ended.diagnostics.getD "").toList)
    fail (.bake (.metadata (.exited ended.code diagnostics)))
  else match parseMetadata ended.output with
    | .ok workspace => pure workspace
    | .error error => fail (.bake error)

end GuestForge
