import GuestForge.CommandLine.Commands
set_option autoImplicit false

/-!
# The program

Runs a call on the machine at hand: the host starts out with the current directory and its `.env` file, and what
the call made is written out at the end. No processes are started, so every program is one that is not found.
-/
namespace GuestForge

def settingNames : List String :=
  ["GUEST_BAKE_CARGO_COMMAND", "GUEST_BAKE_BUILDER_COMMAND", "GUEST_BAKE_LOG_LEVEL"]

def startHost (current : Path) (dotenv : Option (List UInt8)) : Host :=
  let location := current.names.map Name.text
  let above := (List.range (location.length + 1)).map location.take
  let tree := above.foldl (fun tree location => tree.set location .directory) FileTree.empty
  let tree := match dotenv with
    | some bytes => tree.set (location ++ [".env"]) (.file bytes)
    | none => tree
  { tree := tree, current := current.names, clock := "1970-01-01T00:00:00+00:00", outcomes := [] }

def newEntries (before after : FileTree) : List (Location × Entry) :=
  (after.below []).filter fun (location, entry) => before.get? location ≠ some entry

def readIfThere (file : String) : IO (Option (List UInt8)) := do
  try return some (← IO.FS.readBinFile file).toList
  catch _ => return none

def writeOut (location : Location) (entry : Entry) : IO Unit := do
  let place := "/" ++ "/".intercalate location
  match entry with
  | .directory => IO.FS.createDirAll place
  | .file bytes => IO.FS.writeBinFile place ⟨bytes.toArray⟩
  | .link _ => pure ()

end GuestForge

open GuestForge in
def main (arguments : List String) : IO UInt32 := do
  let current := Path.ofString (← IO.currentDir).toString
  let host := startHost current (← readIfThere ".env")
  let environment ← settingNames.filterMapM fun name => do
    return (← IO.getEnv name).map (name, ·)
  let (ending, session) := CommandLine.execute arguments environment { host := host }
  (newEntries host.tree session.host.tree).forM fun (location, entry) => writeOut location entry
  match ending with
  | .usage =>
    IO.eprintln "Wrong usage."
    return 2
  | .exited code output =>
    IO.print output
    return UInt32.ofNat code
  | .crashed fault output =>
    IO.print output
    IO.eprintln fault.message
    return 1
