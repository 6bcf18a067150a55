import GuestForge.Build.Command
import GuestForge.Build.Report
import GuestForge.Host
set_option autoImplicit false

/-!
# Building with an external tool

A package is built by one process in its own directory. A log in the target directory records the command, what
the process writes among its diagnostics, and how it ended; each build starts the log anew.
-/
namespace GuestForge

abbrev Builder := Package → Path → GuestOptions → HostM (List BuiltGuest)

namespace External
open HostM

def logPath (targetDirectory : Path) (package : Package) : Path :=
  (targetDirectory.join (Path.ofString "logs")).join (Path.ofString (package.name ++ ".log"))

def bytesOf (text : String) : List UInt8 := text.toUTF8.data.toList

def logHeader (words : List String) (time : String) : String :=
  "# Command: " ++ Text.ShellWords.join words ++ "\n# Started: " ++ time ++ "\n# " ++
    String.ofList (List.replicate 70 '=') ++ "\n\n"

def logTrailer (code : Int) (time : String) : String :=
  "\n# Finished: " ++ time ++ "\n# Exit code: " ++ toString code ++ "\n"

/-- Starts the log and runs the process, whose diagnostics go behind the header. -/
def runLogged (log : Path) (call : Call) : HostM Ended := do
  makeDirectories log.parent
  let location ← ask log FileTree.writeLocation
  let header := bytesOf (logHeader call.words (← get).startTime)
  setEntry location (.file header)
  let ended ← startProcess call
  writeAt location header.length (bytesOf (ended.diagnostics.getD ""))
  pure ended

def builder (command : String) : Builder := fun package targetDirectory options => do
  let log := logPath targetDirectory package
  let words ← ofValue .words (builderCommand command package targetDirectory options)
  let ended ← orElse (runLogged log ⟨words, some package.directory⟩) fun error =>
    fail (.bake (.build (.notStarted package.name error) (some package.name) none (some log)))
  appendFile log (bytesOf (logTrailer ended.code (← get).endTime))
  if ended.code ≠ 0 then
    fail (.bake (.build (.exited package.name ended.code) (some package.name) (some ended.code) (some log)))
  else match parseReport ended.output (some package.name) with
    | .ok guests => pure guests
    | .error error => fail (.bake error)

end External

end GuestForge
