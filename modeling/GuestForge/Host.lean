import GuestForge.Error
import GuestForge.FileTree.Walk
set_option autoImplicit false

/-!
# The machine that a command runs on

A host is a file tree with a current directory, a clock, a console, and the outcomes of the processes still to be
started; it keeps a list of those that it was to start. Actions on it may fail with a fault and keep what they did
before.
-/
namespace GuestForge

structure Call where
  words : List String
  directory : Option Path
  deriving DecidableEq

def Call.HasNul (call : Call) : Prop :=
  ∃ text ∈ call.words ++ (call.directory.map Path.toString).toList, '\x00' ∈ text.toList

instance Call.decidableHasNul (call : Call) : Decidable call.HasNul := inferInstanceAs (Decidable (∃ _ ∈ _, _))

/-- What starting a process comes to: a refusal, or a run that writes files and ends with an exit code, a text on
its output and one among its diagnostics. -/
inductive Outcome where
  | refused (error : SystemError)
  | ended (code : Int) (output : String) (diagnostics : Option String) (files : List (Path × List UInt8))

structure Ended where
  code : Int
  output : String
  diagnostics : Option String

/-- What a clock shows before a process is started and after it has ended, by the number of those started so far. -/
structure Clock where
  started : Nat → String
  ended : Nat → String

instance : Coe String Clock := ⟨fun time => ⟨fun _ => time, fun _ => time⟩⟩

/-- A console with so many columns. It breaks no text that fits into them; how it breaks others is left open. -/
structure Console where
  columns : Nat
  wrap : String → String
  wrap_fits : ∀ text, Text.CellWidth.Fits columns text.toList → wrap text = text

def Console.wide : Console := ⟨100000, id, fun _ _ => rfl⟩

structure Host where
  tree : FileTree
  current : List Name
  clock : Clock
  outcomes : List Outcome
  calls : List Call := []
  console : Console := .wide

namespace Host

def location (host : Host) : Location := host.current.map Name.text

def currentDirectory (host : Host) : Path := ⟨.root, host.current⟩

def startTime (host : Host) : String := host.clock.started host.calls.length

def endTime (host : Host) : String := host.clock.ended host.calls.length

def called (host : Host) (call : Call) : Host :=
  { host with calls := host.calls ++ [call], outcomes := host.outcomes.tail }

end Host

abbrev HostM := ExceptT Fault (StateM Host)

namespace HostM
variable {α : Type}

def fail (fault : Fault) : HostM α := throw fault

def ofValue {ε : Type} (wrap : ε → ValueError) : Except ε α → HostM α
  | .ok a => pure a
  | .error error => fail (.value (wrap error))

def orElse (act : HostM α) (handle : SystemError → HostM α) : HostM α :=
  tryCatch act fun
    | .system error => handle error
    | fault => throw fault

def refusal (path : Path) (code : ErrorCode) : SystemError :=
  .os code.number code.reason (some path.toString)

def ask (path : Path) (question : FileTree → Location → Path → Except ErrorCode α) : HostM α := do
  if '\x00' ∈ path.toString.toList then fail (.value .embeddedNul)
  else
    let host ← get
    match question host.tree host.location path with
    | .ok a => pure a
    | .error code => fail (.system (refusal path code))

def setTree (tree : FileTree) : HostM Unit := modify fun host => { host with tree := tree }

def setEntry (location : Location) (entry : Entry) : HostM Unit :=
  modify fun host => { host with tree := host.tree.set location entry }

def readFile (path : Path) : HostM (List UInt8) := ask path FileTree.read

def writeFile (path : Path) (bytes : List UInt8) : HostM Unit := do
  setEntry (← ask path FileTree.writeLocation) (.file bytes)

def fileAt (location : Location) : HostM (List UInt8) := do
  match (← get).tree.get? location with
  | some (.file bytes) => pure bytes
  | _ => pure []

def appendFile (path : Path) (bytes : List UInt8) : HostM Unit := do
  let location ← ask path FileTree.writeLocation
  setEntry location (.file ((← fileAt location) ++ bytes))

/-- Writes over the bytes of a file from an offset on; zeros fill what lies between its end and the offset. -/
def writeAt (location : Location) (offset : Nat) (bytes : List UInt8) : HostM Unit := do
  if bytes = [] then pure ()
  else
    let old ← fileAt location
    let head := old.take offset ++ List.replicate (offset - old.length) 0
    setEntry location (.file (head ++ bytes ++ old.drop (offset + bytes.length)))

def unlink (path : Path) : HostM Unit := do setTree (← ask path FileTree.unlink)

def leadsNowhere (path : Path) (error : SystemError) : Bool :=
  error ∈ [refusal path .noEntry, refusal path .notDirectory, refusal path .tooManyLinks]

/-- The entry that a path leads to, if any. A path with a NUL character leads nowhere; refusals of another kind
are faults. -/
def entry? (path : Path) : HostM (Option Entry) :=
  tryCatch (do return some (← ask path FileTree.status).2) fun
    | .value .embeddedNul => pure none
    | .system error => if leadsNowhere path error then pure none else throw (.system error)
    | fault => throw fault

def pathExists (path : Path) : HostM Bool := do return (← entry? path).isSome

def isDirectory (path : Path) : HostM Bool := do return (← entry? path) = some .directory

def fileContent? (path : Path) : HostM (Option (List UInt8)) := do
  match ← entry? path with
  | some (.file bytes) => pure (some bytes)
  | _ => pure none

def makeDirectory (path : Path) : HostM Unit :=
  orElse (do setTree (← ask path FileTree.makeDirectory)) fun error => do
    if error = refusal path .noEntry then fail (.system error)
    else if ← isDirectory path then pure ()
    else fail (.system error)

/-- Makes a directory below an anchor and those above it that are missing; the names come innermost first. -/
def makeDirectoriesFrom (anchor : Anchor) : List Name → HostM Unit
  | [] => makeDirectory ⟨anchor, []⟩
  | name :: outer =>
    let path : Path := ⟨anchor, (name :: outer).reverse⟩
    orElse (makeDirectory path) fun error => do
      if error = refusal path .noEntry then
        makeDirectoriesFrom anchor outer
        makeDirectory path
      else fail (.system error)

def makeDirectories (path : Path) : HostM Unit := makeDirectoriesFrom path.anchor path.names.reverse

def placeFile (path : Path) (bytes : List UInt8) : HostM Unit := do
  makeDirectories path.parent
  writeFile path bytes

def found? (path : Path) : HostM (Option (Location × Entry)) :=
  orElse (do return some (← ask path FileTree.status)) fun _ => pure none

def copyFile (source target : Path) : HostM Unit := do
  let origin ← found? source
  let destination ← found? target
  if origin.isSome ∧ origin = destination then fail (.system (.sameFile source target))
  else
    let bytes ← readFile source
    orElse (writeFile target bytes) fun error => do
      if error = refusal target .isDirectory then
        if (← found? target).isSome then fail (.system error) else fail (.system (.noDirectory target))
      else fail (.system error)

def comesTo (call : Call) : Option Outcome → HostM Ended
  | none => fail (.system (.os ErrorCode.noEntry.number ErrorCode.noEntry.reason (some (call.words.headD ""))))
  | some (.refused error) => fail (.system error)
  | some (.ended code output diagnostics files) => do
    files.forM fun (path, bytes) => placeFile path bytes
    pure ⟨code, output, diagnostics⟩

/-- Starts a process and waits for its end. No NUL character can be passed on to it. -/
def startProcess (call : Call) : HostM Ended := do
  let host ← get
  set (host.called call)
  if call.HasNul then fail (.value .embeddedNul) else comesTo call host.outcomes.head?

end HostM

end GuestForge
