import GuestForge.Proofs.PublishedPaths
set_option autoImplicit false

/-!
# What a publication may touch

The files of a guest are named after the last name of its reported path. Whatever that path is, a publication keeps to
these four files and to directories on the way to them. A path without a last name would have it write beside the
publish directory, but such a path leads to a directory, and the copy of a directory fails before anything is written.
-/
namespace GuestForge

def PublishedGuest.paths (entry : PublishedGuest) : List Path :=
  entry.elfPath :: entry.imageIdPath :: entry.legacyIdPath.toList

def BuiltGuest.siblingName (guest : BuiltGuest) (sibling : Sibling) : String :=
  guest.path.stem ++ sibling.extension.text

/-- One location before and after a publication: it is as it was, or a directory was made there on the way to the
publish directory, or it is that of a sibling and can have got a file or lost one. -/
inductive Touched (package : Package) (guest : BuiltGuest) (current location : Location) :
    Option Entry → Option Entry → Prop where
  | same (entry : Option Entry) : Touched package guest current location entry entry
  | made (passes : FileTree.Passes current package.publishDirectory location) :
      Touched package guest current location none (some .directory)
  | sibling (sibling : Sibling) (at_ : location = package.elfs current ++ [guest.siblingName sibling])
      (before after : Option (List UInt8)) :
      Touched package guest current location (before.map .file) (after.map .file)

/-- A publication that kept to the files of its guest. -/
structure Confined (package : Package) (guest : BuiltGuest) (before after : Host) : Prop where
  host : after = before.withTree after.tree
  linkFree : after.tree.LinkFree
  entries : ∀ location, Touched package guest before.location location (before.tree.get? location)
    (after.tree.get? location)

section confined
variable {package : Package} {guest : BuiltGuest} {host after : Host} {made : FileTree} {binary : List UInt8}
  {written : List Sibling}

theorem FileTree.LinkFree.file {tree : FileTree} (free : tree.LinkFree) {location : Location}
    (open_ : tree.get? location ≠ some .directory) : ∃ bytes : Option (List UInt8), tree.get? location = bytes.map .file := by
  cases hget : tree.get? location with
  | none => exact ⟨none, rfl⟩
  | some entry =>
    cases entry with
    | directory => exact absurd hget open_
    | file bytes => exact ⟨some bytes, rfl⟩
    | link target => exact absurd hget (free _ target)

theorem Settled.confined (h : Settled package guest host made binary written after) (free : host.tree.LinkFree) :
    Confined package guest host after where
  host := by
    rw [h.after]
    rfl
  linkFree := h.linkFree free
  entries := by
    intro location
    by_cases hsibling : ∃ sibling ∈ written, siblingAt (package.elfs host.location) guest.path.stem sibling = location
    · obtain ⟨sibling, hmem, rfl⟩ := hsibling
      have hbefore : host.tree.get? (siblingAt (package.elfs host.location) guest.path.stem sibling) ≠
          some .directory := fun hdirectory => h.open_ sibling hmem (h.grows.stays hdirectory)
      obtain ⟨bytes, hbytes⟩ := free.file hbefore
      rw [h.get?_of_mem hmem, hbytes]
      exact .sibling sibling rfl _ _
    · have hother : ∀ sibling ∈ written,
          siblingAt (package.elfs host.location) guest.path.stem sibling ≠ location :=
        fun sibling hmem hlocation => hsibling ⟨sibling, hmem, hlocation⟩
      rcases h.get?_of_ne hother with hsame | ⟨hpasses, hnone, hdirectory⟩
      · rw [hsame]
        exact .same _
      · rw [hnone, hdirectory]
        exact .made hpasses

theorem siblingName_injective (guest : BuiltGuest) : Function.Injective guest.siblingName :=
  fun _ _ h => (siblingAt_inj.1 (congrArg (fun name => ([] : Location) ++ [name]) h)).2.2

theorem fileName_beside (path : Path) (sibling : Sibling) :
    (path.beside sibling).fileName = path.stem ++ sibling.extension.text := by
  rw [Path.fileName, Path.name?, Path.beside, Path.withLast, List.getLast?_concat]
  rfl

theorem paths_of (package : Package) (named : guest.path.names ≠ []) {path : Path}
    (h : path ∈ (PublishedGuest.of package guest).paths) :
    path.parent = package.publishDirectory ∧ ∃ sibling, path.fileName = guest.siblingName sibling := by
  have hsibling : ∃ sibling, path = (Publish.base package.publishDirectory guest).beside sibling := by
    rcases List.mem_cons.1 h with rfl | h
    · exact ⟨_, rfl⟩
    · rcases List.mem_cons.1 h with rfl | h
      · exact ⟨_, rfl⟩
      · have hlegacy := Option.mem_toList.1 h
        change Publish.legacyPath guest _ = some path at hlegacy
        unfold Publish.legacyPath at hlegacy
        split at hlegacy
        · exact ⟨_, (Option.some.inj hlegacy).symm⟩
        · cases hlegacy
  obtain ⟨sibling, rfl⟩ := hsibling
  refine ⟨?_, sibling, ?_⟩
  · rw [Path.parent_beside, Publish.parent_base_eq named]
  · rw [fileName_beside, Publish.stem_base _ named]
    rfl

/-- However it ends, and whatever path was reported, a publication in a tree without links keeps to the four files of
the guest, which have different names, and to directories on the way to the publish directory. If it goes through, it
reports paths of such files, all in the publish directory. -/
theorem publishGuest_confined (free : host.tree.LinkFree) {answer : Except Fault PublishedGuest}
    (h : Runs (publishGuest package guest) host answer after) :
    Confined package guest host after ∧ Function.Injective guest.siblingName ∧
    ∀ entry, answer = .ok entry → ∀ path ∈ entry.paths,
      path.parent = package.publishDirectory ∧ ∃ sibling, path.fileName = guest.siblingName sibling := by
  obtain ⟨made, binary, written, left, hsettled, -⟩ := publishGuest_after free h
  refine ⟨hsettled.confined free, siblingName_injective guest, ?_⟩
  rintro entry rfl path hpath
  obtain ⟨rfl, hnamed⟩ := publishGuest_reports h
  exact paths_of package hnamed hpath

end confined

namespace Small

def stocked : Host := host.withTree ((host.tree.set ["t"] .directory).set binary.location (.file [7]))

theorem linkFree_stocked : stocked.tree.LinkFree := by
  intro location target
  simp only [stocked, Host.withTree_tree, FileTree.get?_set]
  repeat' split
  · simp
  · simp
  · exact linkFree location target

end Small

theorem publishGuest_confined_small : ∃ entry after,
    Runs (publishGuest Small.package Small.guest) Small.stocked (.ok entry) after ∧
    Confined Small.package Small.guest Small.stocked after ∧
    ∀ path ∈ entry.paths, path.parent = Small.package.publishDirectory := by
  have hruns : Runs (publishGuest Small.package Small.guest) Small.stocked (.ok (.of Small.package Small.guest)) _ :=
    runs_of_toOption (by decide +kernel)
  obtain ⟨hconfined, -, hpaths⟩ := publishGuest_confined Small.linkFree_stocked hruns
  exact ⟨_, _, hruns, hconfined, fun path hpath => (hpaths _ rfl path hpath).1⟩

end GuestForge
