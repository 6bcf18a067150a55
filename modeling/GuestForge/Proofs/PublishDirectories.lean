import GuestForge.Proofs.Course
import GuestForge.Proofs.Publishing
set_option autoImplicit false

/-!
# Publish directories and what they are spared

A publication touches the siblings of one stem in one publish directory, and the directories on the way there.
With plain manifests that directory does not depend on the host, so what lies in other publish directories, or
beside them, stays as it is.
-/
namespace GuestForge

/-- A path from the root, with one slash in front and without `..`. -/
def Path.Plain (path : Path) : Prop := path.anchor = .root ∧ ∀ name ∈ path.names, name.text ≠ ".."

instance (path : Path) : Decidable path.Plain := inferInstanceAs (Decidable (_ ∧ _))

def Path.location (path : Path) : Location := path.names.map Name.text

namespace FileTree

theorem foldl_step {names : List Name} (h : ∀ name ∈ names, name.text ≠ "..") (here : Location) :
    names.foldl step here = here ++ names.map Name.text := by
  induction names generalizing here with
  | nil => exact (List.append_nil here).symm
  | cons name rest ih =>
    have hstep : step here name = here ++ [name.text] := if_neg (h name List.mem_cons_self)
    rw [List.foldl_cons, hstep, ih fun other hother => h other (List.mem_cons_of_mem _ hother), List.append_assoc]
    rfl

theorem spot_plain {path : Path} (h : path.Plain) (current : Location) : spot current path = path.location := by
  have hstart : start current path = [] := by
    rw [start, h.1]
    rfl
  rw [spot, hstart, foldl_step h.2]
  rfl

theorem Passes.isPrefix {path : Path} {current location : Location} (h : path.Plain)
    (hpasses : Passes current path location) : location <+: path.location := by
  obtain ⟨names, hnames, rfl⟩ := hpasses
  have houter : (⟨path.anchor, names⟩ : Path).Plain := ⟨h.1, fun name hname => h.2 name (hnames.subset hname)⟩
  rw [spot_plain houter]
  exact hnames.map Name.text

end FileTree

theorem Package.plain_publishDirectory {package : Package} (h : package.manifest.Plain) :
    package.publishDirectory.Plain := by
  rw [package.publishDirectory_eq]
  refine ⟨h.1, fun name hname => ?_⟩
  rcases List.mem_append.1 hname with houter | hlast
  · exact h.2 name (List.dropLast_subset _ houter)
  · rw [List.mem_singleton.1 hlast]
    decide

theorem Package.elfs_eq {package : Package} (h : package.manifest.Plain) (current : Location) :
    package.elfs current = package.publishDirectory.location :=
  FileTree.spot_plain (package.plain_publishDirectory h) current

namespace Settled
variable {package : Package} {guest : BuiltGuest} {host after : Host} {made : FileTree} {binary : List UInt8}
  {written : List Sibling}

theorem location (h : Settled package guest host made binary written after) : after.location = host.location := by
  rw [h.after]
  rfl

theorem linkFree (h : Settled package guest host made binary written after) (free : host.tree.LinkFree) :
    after.tree.LinkFree := by
  rw [h.after]
  exact (h.grows.linkFree free).putAll _

theorem directory (h : Settled package guest host made binary written after) {location : Location}
    (hdirectory : host.tree.get? location = some .directory) : after.tree.get? location = some .directory := by
  rw [h.after]
  exact FileTree.directory_putSiblings h.open_ (h.grows.stays hdirectory)

theorem get?_of_mem (h : Settled package guest host made binary written after) {sibling : Sibling}
    (hsibling : sibling ∈ written) :
    after.tree.get? (siblingAt (package.elfs host.location) guest.path.stem sibling) =
      (guest.content binary sibling).map .file := by
  rw [h.after]
  exact FileTree.get?_putSiblings_of_mem made written hsibling

/-- A location that is none of the settled siblings stays, or a directory is made there. -/
theorem get?_of_ne (h : Settled package guest host made binary written after) {location : Location}
    (hlocation : ∀ sibling ∈ written, siblingAt (package.elfs host.location) guest.path.stem sibling ≠ location) :
    after.tree.get? location = host.tree.get? location ∨
      FileTree.Passes host.location package.publishDirectory location ∧ host.tree.get? location = none ∧
        after.tree.get? location = some .directory := by
  have hmade : after.tree.get? location = made.get? location := by
    rw [h.after]
    exact FileTree.get?_putSiblings_of_notMem made written location hlocation
  rw [hmade]
  exact h.grows location

end Settled

/-- A publication keeps a tree without links, and all that is neither its own nor on the way there. -/
theorem publishGuest_spares {package : Package} {guest : BuiltGuest} {host after : Host}
    {answer : Except Fault PublishedGuest} (plain : package.manifest.Plain) (free : host.tree.LinkFree)
    (h : Runs (publishGuest package guest) host answer after) :
    after.tree.LinkFree ∧ ∀ location, ¬ location <+: package.publishDirectory.location →
      (∀ sibling, siblingAt package.publishDirectory.location guest.path.stem sibling ≠ location) →
      after.tree.get? location = host.tree.get? location := by
  obtain ⟨made, binary, written, left, hsettled, -⟩ := publishGuest_after free h
  refine ⟨hsettled.linkFree free, fun location hoff hother => ?_⟩
  rcases hsettled.get?_of_ne fun sibling _ => package.elfs_eq plain host.location ▸ hother sibling with
    hsame | ⟨hpasses, -⟩
  · exact hsame
  · exact absurd (hpasses.isPrefix (package.plain_publishDirectory plain)) hoff

def Spares (builder : Builder) (region : Location → Prop) : Prop :=
  ∀ package targetDirectory options, Keeps (Host.Spares region) (builder package targetDirectory options)

theorem Spares.build {builder : Builder} {region : Location → Prop} (spares : Spares builder region)
    {request : Request} {answer : Except Fault (List BuiltGuest)} {before after : Session}
    (h : (Event.built builder request answer).Happens before after) (free : before.host.tree.LinkFree) :
    after.host.tree.LinkFree ∧
      ∀ location, region location → after.host.tree.get? location = before.host.tree.get? location := by
  obtain ⟨result, hbuilds, -⟩ := (runs_buildGuests _).1 h
  exact spares _ _ _ _ _ _ hbuilds free

end GuestForge
