import GuestForge.Bake
import GuestForge.CommandLine.Arguments
import GuestForge.CompatBundle
import GuestForge.Json.Writer
import GuestForge.Settings.Basic
import GuestForge.Workspace.Metadata
set_option autoImplicit false

/-!
# Commands

`config` shows the settings, `bake` bakes the workspace of the current directory, and `compat` shows or exports
the compatibility bundle. A call ends as a usage error, with an exit code, or with a fault that nothing handles;
what was printed before stays.
-/
namespace GuestForge.CommandLine

inductive Halt where
  | usage
  | exit (code : Nat)
  | crash (fault : Fault)

structure Terminal where
  session : Session
  environment : List (String × String)
  /-- The level that logging was set up with, once it was. -/
  level : Option String := none
  output : String := ""

abbrev CommandM := ExceptT Halt (StateM Terminal)

namespace CommandM
variable {α : Type}

def crash (fault : Fault) : CommandM α := throw (.crash fault)

def echo (text : String) : CommandM Unit :=
  modify fun terminal => { terminal with output := terminal.output ++ text ++ "\n" }

def print (markup : String) : CommandM Unit := do
  match Text.Markup.render markup with
  | .ok text => echo ((← get).session.host.console.wrap text)
  | .error error => crash (.markup error)

def attempt (act : BakeM α) : CommandM (Except Fault α) := do
  let terminal ← get
  let (answer, session) := act.run.run terminal.session
  set { terminal with session := session }
  pure answer

def onHost (act : HostM α) : CommandM (Except Fault α) := attempt (BakeM.onHost act)

def dotenv : CommandM (Option String) := do
  match ← onHost (HostM.fileContent? (Path.ofString ".env")) with
  | .ok none => pure none
  | .ok (some bytes) =>
    match Text.Utf8.decode bytes with
    | .ok text => pure (some text)
    | .error error => crash (.encoding error)
  | .error fault => crash fault

def settings : CommandM Settings := do
  let dotenv ← dotenv
  match Settings.load (← get).environment dotenv with
  | .valid settings => pure settings
  | .invalid first others => crash (.violations first others)

def pathArgument (value : Option String) : CommandM (Option Path) :=
  match value with
  | none => pure none
  | some text => if '\x00' ∈ text.toList then throw .usage else pure (some (Path.ofString text))

end CommandM

open CommandM

def version : String := "guest-bake version 0.1.0"

def helpSpec : OptionSpec := ⟨"help", ["--help"], none, false⟩

def mainSpecs : List OptionSpec :=
  [⟨"version", ["--version"], some 'V', false⟩, ⟨"log-level", ["--log-level"], none, true⟩,
    ⟨"completion", ["--install-completion", "--show-completion"], none, false⟩, helpSpec]

def configSpecs : List OptionSpec := [⟨"json", ["--json"], none, false⟩, helpSpec]

def compatSpecs : List OptionSpec := [⟨"output", ["--output"], some 'o', true⟩, helpSpec]

def bakeSpecs : List OptionSpec :=
  [⟨"manifest-path", ["--manifest-path"], none, true⟩, ⟨"package", ["--package"], some 'p', true⟩,
    ⟨"workspace", ["--workspace", "--all"], none, false⟩, ⟨"exclude", ["--exclude"], none, true⟩,
    ⟨"features", ["--features"], some 'F', true⟩, ⟨"all-features", ["--all-features"], none, false⟩,
    ⟨"no-default-features", ["--no-default-features"], none, false⟩, ⟨"docker", ["--docker"], none, false⟩,
    ⟨"json", ["--json"], none, false⟩, helpSpec]

def commandOptions (specs : List OptionSpec) (arguments : List String) : CommandM (List Given) := do
  match readArguments specs true arguments with
  | none => throw .usage
  | some (given, others) =>
    if isGiven given "help" then throw (.exit 0)
    if others ≠ [] then throw .usage
    pure given

def config (arguments : List String) : CommandM Unit := do
  let given ← commandOptions configSpecs arguments
  let settings ← settings
  if isGiven given "json" then echo (Json.write .indented .unicode settings.toJson)
  else
    print "[bold]Effective Configuration:[/bold]"
    print ""
    print "[bold]Tools:[/bold]"
    print ("  Cargo command:       " ++ settings.packageManager)
    print ("  Builder command:     " ++ settings.builder)
    print ""
    print "[bold]Operational:[/bold]"
    print ("  Log level:           " ++ settings.logLevel.name)

def showResult (result : BakeResult) : CommandM Unit := do
  if result.packages = [] then print "[yellow]No guest packages found[/yellow]"
  else
    print ("[bold]Baked " ++ toString result.guests.length ++ " guest(s) from " ++
      toString result.packages.length ++ " package(s):[/bold]")
    result.guests.forM fun guest => do
      print ("  [green]" ++ guest.elfPath.toString ++ "[/green]")
      print ("    " ++ guest.imageId.context.name ++ " ID: " ++ guest.imageId.digest.toHex)

def resolveAndBake (settings : Settings) (manifest : Option Path) (configuration : Configuration)
    (selection : Selection) : BakeM BakeResult := do
  let workspace ← BakeM.onHost (resolveWorkspace manifest (some configuration) settings.packageManager)
  bake workspace (External.builder settings.builder) configuration selection none

def bakeCommand (arguments : List String) : CommandM Unit := do
  let given ← commandOptions bakeSpecs arguments
  let manifest ← pathArgument (valueOf? given "manifest-path")
  let settings ← settings
  let configuration : Configuration :=
    ⟨splitFeatures (valuesOf given "features"), isGiven given "all-features",
      isGiven given "no-default-features", isGiven given "docker"⟩
  let selection : Selection :=
    ⟨valuesOf given "package", isGiven given "workspace", valuesOf given "exclude"⟩
  let json := isGiven given "json"
  match ← attempt (resolveAndBake settings manifest configuration selection) with
  | .ok result => if json then echo (Json.write .indented .unicode result.toJson) else showResult result
  | .error (.bake error) =>
    if json then echo (Json.write .indented .ascii (.object [("error", error.toJson)]))
    else print ("[red]Error: " ++ error.message ++ "[/red]")
    throw (.exit 1)
  | .error fault => crash fault

def exportBundle (directory : Path) : HostM Unit := do
  HostM.makeDirectories directory
  HostM.writeFile (directory.join (Path.ofString "v1compat.elf")) CompatBundle.elf
  HostM.writeFile (directory.join (Path.ofString "v1compat.kid")) CompatBundle.kernelId

def compat (arguments : List String) : CommandM Unit := do
  let output ← pathArgument (valueOf? (← commandOptions compatSpecs arguments) "output")
  print ("v1compat.elf: " ++ toString CompatBundle.elf.length ++ " bytes")
  print ("kernel ID:    " ++ String.ofList (Text.Hex.encode CompatBundle.kernelId))
  match output with
  | none => pure ()
  | some directory =>
    match ← onHost (exportBundle directory) with
    | .ok () => print ("[green]Wrote v1compat bundle to " ++ directory.toString ++ "[/green]")
    | .error (.system error) =>
      print ("[red]Error: Failed to write " ++ directory.toString ++ ": " ++ error.message ++ "[/red]")
      throw (.exit 1)
    | .error fault => crash fault

def levelNames : List String :=
  ["CRITICAL", "FATAL", "ERROR", "WARN", "WARNING", "INFO", "DEBUG", "NOTSET"]

/-- Sets up logging with the level of the command line unless that is empty, or else that of the settings. -/
def setLogLevel (option : Option String) : CommandM Unit := do
  let settings ← settings
  let chosen := match option with
    | some text => if text = "" then settings.logLevel.name else text
    | none => settings.logLevel.name
  let level := Text.Case.upper chosen
  if level ∈ levelNames then modify fun terminal => { terminal with level := some level }
  else crash (.value (.logLevel level))

def commands : List (String × (List String → CommandM Unit)) :=
  [("config", config), ("bake", bakeCommand), ("compat", compat)]

/-- The options before the command, and the arguments from that on. Version and help end the call, the first of
them before the others; there is no shell whose completion could be set up. -/
def mainOptions (arguments : List String) : CommandM (List Given × List String) := do
  match readArguments mainSpecs false arguments with
  | none => throw .usage
  | some (given, others) =>
    if let some first := given.find? fun given => given.key = "version" ∨ given.key = "help" then
      if first.key = "version" then print version
      throw (.exit 0)
    if isGiven given "completion" then throw (.exit 1)
    pure (given, others)

/-- The whole call. A known command is needed before the log level is looked at, and that before the options of
the command. What stands in the place of a command and is none may still be options, of which version and help
end the call. -/
def call (arguments : List String) : CommandM Unit := do
  let (given, others) ← mainOptions arguments
  match others with
  | [] => throw .usage
  | name :: rest =>
    match commands.lookup name with
    | none =>
      let _ ← mainOptions others
      throw .usage
    | some command =>
      setLogLevel (valueOf? given "log-level")
      command rest

inductive Ending where
  | usage
  | exited (code : Nat) (output : String)
  | crashed (fault : Fault) (output : String)

def execute (arguments : List String) (environment : List (String × String)) (session : Session) :
    Ending × Session :=
  let (answer, terminal) := (call arguments).run.run { session := session, environment := environment }
  let ending := match answer with
    | .ok () => .exited 0 terminal.output
    | .error .usage => .usage
    | .error (.exit code) => .exited code terminal.output
    | .error (.crash fault) => .crashed fault terminal.output
  (ending, terminal.session)

end GuestForge.CommandLine
