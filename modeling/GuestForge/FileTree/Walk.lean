import GuestForge.FileTree.Basic
import GuestForge.Path
set_option autoImplicit false

/-!
# Where a path leads

Walking a path goes through the tree name by name, enters directories and follows links: in the middle of the
path always, at its end unless the link itself is meant. It ends at an entry, at a name that a directory does not
have, or at an error. At most forty links are followed, which also ends loops of links.
-/
namespace GuestForge

inductive ErrorCode where
  | noEntry
  | exists
  | notDirectory
  | isDirectory
  | nameTooLong
  | tooManyLinks
  deriving DecidableEq, Repr

def ErrorCode.number : ErrorCode → Int
  | .noEntry => 2
  | .exists => 17
  | .notDirectory => 20
  | .isDirectory => 21
  | .nameTooLong => 36
  | .tooManyLinks => 40

def ErrorCode.reason : ErrorCode → String
  | .noEntry => "No such file or directory"
  | .exists => "File exists"
  | .notDirectory => "Not a directory"
  | .isDirectory => "Is a directory"
  | .nameTooLong => "File name too long"
  | .tooManyLinks => "Too many levels of symbolic links"

namespace FileTree

inductive Aim where
  | follow
  | stay
  | write
  deriving DecidableEq, Repr

inductive Reached where
  | entry (location : Location) (entry : Entry)
  | vacant (directory : Location) (name : String)
  deriving DecidableEq, Repr

/-- The steps that the text of a link makes: its segments, with an empty one at the end if it ends in a slash. -/
def stepsOf (target : String) : List String :=
  ((Path.segments target.toList).filter (· ≠ [])).map String.ofList ++
    if target.toList.getLast? = some '/' then [""] else []

/-- Walks on from a directory, up to the first link to follow, where `follow` takes over with the directory to
go on from and the steps to make. Empty steps and single dots stay where they are. A name with slashes behind it
is that of a directory, which cannot be written. -/
def walkSteps (tree : FileTree) (aim : Aim)
    (follow : Location → List String → Except ErrorCode Reached) :
    Location → List String → Except ErrorCode Reached
  | here, [] => .ok (.entry here .directory)
  | here, step :: rest =>
    if step = "" ∨ step = "." then walkSteps tree aim follow here rest
    else if step = ".." then walkSteps tree aim follow here.dropLast rest
    else if aim = .write ∧ rest ≠ [] ∧ rest.all (· = "") then .error .isDirectory
    else if 255 < step.utf8ByteSize then .error .nameTooLong
    else match tree.get? (here ++ [step]) with
      | none => if rest = [] then .ok (.vacant here step) else .error .noEntry
      | some .directory => walkSteps tree aim follow (here ++ [step]) rest
      | some (.file bytes) =>
        if rest = [] then .ok (.entry (here ++ [step]) (.file bytes)) else .error .notDirectory
      | some (.link target) =>
        if rest = [] ∧ aim = .stay then .ok (.entry (here ++ [step]) (.link target))
        else follow (if target.toList.head? = some '/' then [] else here) (stepsOf target ++ rest)

def walkFrom (tree : FileTree) (aim : Aim) : Nat → Location → List String → Except ErrorCode Reached
  | 0 => walkSteps tree aim fun _ _ => .error .tooManyLinks
  | links + 1 => walkSteps tree aim (walkFrom tree aim links)

def walk (tree : FileTree) (current : Location) (aim : Aim) (path : Path) :
    Except ErrorCode Reached :=
  if 4096 ≤ path.toString.utf8ByteSize then .error .nameTooLong
  else
    let start := if path.anchor = .relative then current else []
    walkFrom tree aim 40 start (path.names.map Name.text)

def status (tree : FileTree) (current : Location) (path : Path) : Except ErrorCode (Location × Entry) := do
  match ← walk tree current .follow path with
  | .entry location entry => .ok (location, entry)
  | .vacant _ _ => .error .noEntry

def writeLocation (tree : FileTree) (current : Location) (path : Path) : Except ErrorCode Location := do
  match ← walk tree current .write path with
  | .entry _ .directory => .error .isDirectory
  | .entry location _ => .ok location
  | .vacant directory name => .ok (directory ++ [name])

def read (tree : FileTree) (current : Location) (path : Path) : Except ErrorCode (List UInt8) := do
  match ← status tree current path with
  | (_, .file bytes) => .ok bytes
  | _ => .error .isDirectory

def makeDirectory (tree : FileTree) (current : Location) (path : Path) : Except ErrorCode FileTree := do
  match ← walk tree current .stay path with
  | .entry _ _ => .error .exists
  | .vacant directory name => .ok (tree.set (directory ++ [name]) .directory)

def unlink (tree : FileTree) (current : Location) (path : Path) : Except ErrorCode FileTree := do
  match ← walk tree current .stay path with
  | .entry _ .directory => .error .isDirectory
  | .entry location _ => .ok (tree.erase location)
  | .vacant _ _ => .error .noEntry

end FileTree

end GuestForge
