import Std.Data.ExtTreeMap
set_option autoImplicit false

/-!
# File trees

A file tree maps locations to directories, files and links. A location lists names from the root on and
follows no links; the root itself is a directory that needs no entry. Two trees with the same entries are equal.
-/
namespace GuestForge

abbrev Location := List String

inductive Entry where
  | directory
  | file (bytes : List UInt8)
  | link (target : String)
  deriving DecidableEq, Repr

structure FileTree where
  entries : Std.ExtTreeMap Location Entry
  deriving DecidableEq

namespace FileTree

def empty : FileTree := ⟨∅⟩

def get? (tree : FileTree) (location : Location) : Option Entry := tree.entries[location]?

def set (tree : FileTree) (location : Location) (entry : Entry) : FileTree :=
  ⟨tree.entries.insert location entry⟩

def erase (tree : FileTree) (location : Location) : FileTree := ⟨tree.entries.erase location⟩

def prune (tree : FileTree) (location : Location) : FileTree :=
  ⟨tree.entries.filter fun other _ => !location.isPrefixOf other⟩

def below (tree : FileTree) (location : Location) : List (Location × Entry) :=
  tree.entries.toList.filterMap fun (other, entry) =>
    if location.isPrefixOf other ∧ other ≠ location then some (other.drop location.length, entry) else none

@[ext] theorem ext {tree other : FileTree} (h : ∀ location, tree.get? location = other.get? location) :
    tree = other := by
  obtain ⟨entries⟩ := tree
  obtain ⟨others⟩ := other
  exact congrArg FileTree.mk (Std.ExtTreeMap.ext_getElem? fun location => h location)

theorem get?_empty (location : Location) : empty.get? location = none := by simp [empty, get?]

theorem get?_set (tree : FileTree) (location other : Location) (entry : Entry) :
    (tree.set location entry).get? other = if location = other then some entry else tree.get? other := by
  simp [set, get?, Std.ExtTreeMap.getElem?_insert]

theorem get?_erase (tree : FileTree) (location other : Location) :
    (tree.erase location).get? other = if location = other then none else tree.get? other := by
  simp [erase, get?, Std.ExtTreeMap.getElem?_erase]

end FileTree

end GuestForge
