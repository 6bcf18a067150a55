import GuestForge.Build.Options
import GuestForge.Text.ShellWords
import GuestForge.Workspace.Package
set_option autoImplicit false

/-!
# Command lines of the tools

The configured command may hold several words; the words of a call follow them.
-/
namespace GuestForge
open Text.ShellWords (Error split)

def featureWords (features : List String) : List String :=
  if features = [] then [] else ["--features", ",".intercalate features]

def Configuration.words (configuration : Configuration) : List String :=
  featureWords configuration.features ++
    (if configuration.allFeatures then ["--all-features"] else []) ++
    (if configuration.noDefaultFeatures then ["--no-default-features"] else [])

def GuestOptions.words (options : GuestOptions) : List String :=
  featureWords options.features ++
    match options.dockerRoot with
    | some root => ["--docker", "--docker-root", root.toString]
    | none => []

def metadataCommand (command : String) (manifest : Option Path) (configuration : Option Configuration) :
    Except Error (List String) := do
  let words ← split command
  let manifestWords := match manifest with
    | some path => ["--manifest-path", path.toString]
    | none => []
  .ok (words ++ ["metadata", "--format-version", "1"] ++ manifestWords ++
    (configuration.map Configuration.words).getD [])

def builderCommand (command : String) (package : Package) (targetDirectory : Path) (options : GuestOptions) :
    Except Error (List String) := do
  let words ← split command
  .ok (words ++ ["build", "--manifest-path", package.manifest.toString, "--target-dir",
    targetDirectory.toString] ++ options.words ++ ["--message-format", "json"])

end GuestForge
