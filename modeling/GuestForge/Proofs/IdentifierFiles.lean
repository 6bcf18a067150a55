import GuestForge.Proofs.Changes
import GuestForge.Proofs.HostActions
import GuestForge.Proofs.PathText
set_option autoImplicit false

/-!
# Writing identifier files

The siblings of a path are within reach together or not at all. Where they are, writing the identifier files of
a guest comes to a change of the tree that can be said in one line, and it fails only at a directory in the way.
-/
namespace GuestForge
open HostM

/-- All siblings of a path can have entries in `directory`. -/
def Host.Beside (host : Host) (path : Path) (directory : Location) : Prop :=
  ∀ sibling, host.Reaches (path.beside sibling) directory (path.extended sibling.extension)

theorem siblingAt_eq (directory : Location) (path : Path) (sibling : Sibling) :
    siblingAt directory path.stem sibling = directory ++ [(path.extended sibling.extension).text] := rfl

theorem Path.names_beside {path : Path} {sibling : Sibling} {outer : List Name} {name : Name}
    (h : (path.beside sibling).names = outer ++ [name]) :
    outer = path.names.dropLast ∧ name = path.extended sibling.extension := by
  obtain ⟨houter, hname⟩ := List.append_inj' h.symm rfl
  exact ⟨houter, List.singleton_inj.1 hname⟩

theorem FileTree.Reaches.beside {tree : FileTree} {current directory : Location} {path : Path} {name : Name}
    {sibling : Sibling} (h : tree.Reaches current (path.beside sibling) directory name) (other : Sibling) :
    tree.Reaches current (path.beside other) directory (path.extended other.extension) := by
  obtain ⟨outer, hnames, hdirectory⟩ := h.names
  obtain ⟨rfl, rfl⟩ := Path.names_beside hnames
  have hfits := h.fits
  rw [Path.utf8ByteSize_extended] at hfits
  refine ⟨?_, ⟨_, rfl, hdirectory⟩, path.extended_ne_up other, ?_⟩
  · rw [Path.utf8ByteSize_beside path other sibling]
    exact h.short
  · rw [Path.utf8ByteSize_extended]
    exact hfits

theorem Host.Reaches.beside {host : Host} {path : Path} {sibling : Sibling} {directory : Location} {name : Name}
    (h : host.Reaches (path.beside sibling) directory name) :
    host.Beside path directory ∧ directory ++ [name.text] = siblingAt directory path.stem sibling := by
  refine ⟨fun other => ⟨?_, h.reaches.beside other⟩, ?_⟩
  · rw [Path.nul_mem_beside path other sibling]
    exact h.clean
  · obtain ⟨outer, hnames, -⟩ := h.reaches.names
    rw [(Path.names_beside hnames).2]
    rfl

theorem Host.Beside.mono {host other : Host} {path : Path} {directory : Location} (h : host.Beside path directory)
    (location : other.location = host.location)
    (stay : ∀ location, host.tree.get? location = some .directory → other.tree.get? location = some .directory) :
    other.Beside path directory := fun sibling => (h sibling).mono location stay

/-- The siblings of a path lie in `directory`, links or none on the way there. -/
structure Host.Houses (host : Host) (path : Path) (directory : Location) : Prop where
  clean : ∀ sibling, '\x00' ∉ (path.beside sibling).toString.toList
  short : ∀ sibling, (path.beside sibling).toString.utf8ByteSize < 4096
  fits : path.stem.utf8ByteSize + 4 ≤ 255
  parent : host.tree.walk host.location .follow path.parent = .ok (.entry directory .directory)

section houses
variable {host other : Host} {path : Path} {directory : Location} {sibling : Sibling}

theorem Host.Houses.walk (h : host.Houses path directory) {aim : FileTree.Aim}
    (ends : aim = .stay ∨ ∀ target, host.tree.get? (siblingAt directory path.stem sibling) ≠ some (.link target)) :
    host.tree.walk host.location aim (path.beside sibling) =
      .ok (host.tree.at? directory (path.extended sibling.extension)) := by
  refine FileTree.walk_at rfl (h.short sibling) ?_ (path.extended_ne_up sibling) ?_ ends
  · rw [Path.parent_beside]
    exact h.parent
  · rw [Path.utf8ByteSize_extended]
    exact h.fits

theorem Host.Houses.finds (h : host.Houses path directory)
    (unlinked : ∀ target, host.tree.get? (siblingAt directory path.stem sibling) ≠ some (.link target)) :
    host.Finds (path.beside sibling) directory (path.extended sibling.extension) :=
  ⟨h.clean sibling, ⟨fun _ => h.walk (.inr unlinked), unlinked⟩⟩

theorem Host.Houses.mono (h : host.Houses path directory) (location : other.location = host.location)
    (stays : FileTree.Stays host.tree other.tree) : other.Houses path directory := by
  refine ⟨h.clean, h.short, h.fits, ?_⟩
  rw [location]
  exact FileTree.status_iff.1 (FileTree.status_turn h.parent stays (.directory directory))

theorem Host.houses_of_walk {aim : FileTree.Aim} {found : FileTree.Reached}
    (clean : '\x00' ∉ (path.beside sibling).toString.toList)
    (h : host.tree.walk host.location aim (path.beside sibling) = .ok found) :
    ∃ directory, host.Houses path directory := by
  obtain ⟨directory, hparent, hfits⟩ := FileTree.walk_parent rfl (path.extended_ne_up sibling) h
  rw [Path.parent_beside] at hparent
  rw [Path.utf8ByteSize_extended] at hfits
  refine ⟨directory, fun other => ?_, fun other => ?_, hfits, hparent⟩
  · rw [Path.nul_mem_beside path other sibling]
    exact clean
  · rw [Path.utf8ByteSize_beside path other sibling]
    exact (FileTree.walk_iff.1 h).1

theorem Host.Beside.houses (h : host.Beside path directory) (free : host.tree.LinkFree) :
    host.Houses path directory := by
  have hfits := (h .elf).reaches.fits
  rw [Path.utf8ByteSize_extended] at hfits
  refine ⟨fun sibling => (h sibling).clean, fun sibling => (h sibling).reaches.short, hfits, ?_⟩
  obtain ⟨outer, hnames, hdirectory⟩ := (h .elf).reaches.names
  obtain ⟨rfl, -⟩ := Path.names_beside hnames
  have hshort : path.parent.toString.utf8ByteSize < 4096 := by
    rw [← path.parent_beside .elf]
    exact Nat.lt_of_le_of_lt (Path.utf8ByteSize_parent (by simp [hnames])) (h .elf).reaches.short
  rw [FileTree.walk_eq_stroll free, if_neg (Nat.not_le.2 hshort)]
  exact hdirectory

end houses

def siblingChanges (directory : Location) (stem : String) (content : Sibling → Option (List UInt8))
    (siblings : List Sibling) : List Change :=
  siblings.map fun sibling => (siblingAt directory stem sibling, content sibling)

namespace FileTree

def putSiblings (tree : FileTree) (directory : Location) (stem : String) (content : Sibling → Option (List UInt8))
    (siblings : List Sibling) : FileTree :=
  tree.putAll (siblingChanges directory stem content siblings)

section siblings
variable {directory : Location} {stem : String} {content : Sibling → Option (List UInt8)}

theorem get?_putSiblings_of_notMem (tree : FileTree) (siblings : List Sibling) (location : Location)
    (h : ∀ sibling ∈ siblings, siblingAt directory stem sibling ≠ location) :
    (tree.putSiblings directory stem content siblings).get? location = tree.get? location := by
  rw [putSiblings, get?_putAll, lastChange_eq_none]
  rintro change hchange hlocation
  obtain ⟨sibling, hsibling, rfl⟩ := List.mem_map.1 hchange
  exact h sibling hsibling hlocation

theorem get?_putSiblings_of_mem (tree : FileTree) (siblings : List Sibling) {sibling : Sibling}
    (h : sibling ∈ siblings) :
    (tree.putSiblings directory stem content siblings).get? (siblingAt directory stem sibling) =
      (content sibling).map .file := by
  have hchange : (siblingAt directory stem sibling, content sibling) ∈
      siblingChanges directory stem content siblings := List.mem_map_of_mem h
  obtain ⟨last, hlast⟩ := exists_lastChange hchange
  obtain ⟨other, -, hother⟩ := List.mem_map.1 (lastChange_mem hlast)
  obtain ⟨hlocation, hcontent⟩ := Prod.mk.inj hother
  obtain rfl := (siblingAt_inj.1 hlocation).2.2
  rw [putSiblings, get?_putAll, hlast, ← hcontent]

theorem directory_putSiblings {tree : FileTree} {siblings : List Sibling}
    (open_ : ∀ sibling ∈ siblings, tree.get? (siblingAt directory stem sibling) ≠ some .directory)
    {location : Location} (h : tree.get? location = some .directory) :
    (tree.putSiblings directory stem content siblings).get? location = some .directory := by
  refine directory_putAll (fun change hchange => ?_) h
  obtain ⟨sibling, hsibling, rfl⟩ := List.mem_map.1 hchange
  exact open_ sibling hsibling

theorem stays_putSiblings {tree : FileTree} {siblings : List Sibling}
    (open_ : ∀ sibling ∈ siblings, tree.get? (siblingAt directory stem sibling) ≠ some .directory)
    (unlinked : ∀ sibling ∈ siblings, ∀ target, tree.get? (siblingAt directory stem sibling) ≠ some (.link target)) :
    Stays tree (tree.putSiblings directory stem content siblings) := by
  refine ⟨fun location => directory_putSiblings open_, fun location target hlink => ?_⟩
  rw [get?_putSiblings_of_notMem, hlink]
  rintro sibling hsibling rfl
  exact unlinked sibling hsibling target hlink

end siblings

end FileTree

def BuiltGuest.content (guest : BuiltGuest) (binary : List UInt8) : Sibling → Option (List UInt8)
  | .elf => some binary
  | .legacy => if guest.legacyId ≠ Digest.zero then some guest.legacyId.bytes else none
  | .id context => if context = guest.imageId.context then some guest.imageId.digest.bytes else none

theorem BuiltGuest.content_own (guest : BuiltGuest) (binary : List UInt8) :
    guest.content binary (.id guest.imageId.context) = some guest.imageId.digest.bytes := if_pos rfl

theorem BuiltGuest.content_other (guest : BuiltGuest) (binary : List UInt8) :
    guest.content binary (.id guest.imageId.context.other) = none := by
  apply if_neg
  cases guest.imageId.context <;> decide

namespace Publish
variable {host after : Host} {path : Path}

theorem writeDigest_ok {digest : Digest} {written : Path}
    (h : Runs (writeDigest path digest) host (.ok written) after) :
    written = path ∧ Runs (writeFile path digest.bytes) host (.ok ()) after := by
  obtain ⟨_, middle, hwrites, hpure⟩ := runs_bind_ok.1 h
  obtain ⟨hanswer, rfl⟩ := runs_pure.1 hpure
  cases hanswer
  exact ⟨rfl, runs_orElse_fail_ok.1 hwrites⟩

theorem writeDigest_error {digest : Digest} {fault : Fault}
    (h : Runs (writeDigest path digest) host (.error fault) after) : after = host := by
  rcases runs_bind_error.1 h with hwrites | ⟨_, middle, -, hpure⟩
  · rcases runs_orElse_fail_error.1 hwrites with ⟨hwrite, -⟩ | ⟨error, hwrite, -⟩
    · exact writeFile_error hwrite
    · exact writeFile_error hwrite
  · cases (runs_pure.1 hpure).1

theorem run_writeDigest {directory : Location} {name : Name} (h : host.Finds path directory name)
    (open_ : host.tree.get? (directory ++ [name.text]) ≠ some .directory) (digest : Digest) :
    Runs (writeDigest path digest) host (.ok path)
      (host.withTree (host.tree.set (directory ++ [name.text]) (.file digest.bytes))) :=
  runs_bind_ok.2 ⟨(), _, runs_orElse_fail_ok.2 (run_writeFile h open_ digest.bytes), runs_pure.2 ⟨rfl, rfl⟩⟩

theorem run_writeDigest_directory {directory : Location} {name : Name} (h : host.Finds path directory name)
    (blocked : host.tree.get? (directory ++ [name.text]) = some .directory) (digest : Digest) :
    ∃ fault, Runs (writeDigest path digest) host (.error fault) host :=
  ⟨_, runs_bind_error.2 (.inl (runs_orElse_fail_error.2
    (.inr ⟨_, run_writeFile_directory h blocked digest.bytes, rfl⟩)))⟩

theorem removeStale_after {answer : Except Fault Unit} (h : Runs (removeStale path) host answer after) :
    after = host ∨ '\x00' ∉ path.toString.toList ∧ ∃ location entry,
      host.tree.walk host.location .stay path = .ok (.entry location entry) ∧ entry ≠ .directory ∧
      after = host.withTree (host.tree.erase location) := by
  obtain ⟨result, hruns⟩ := exists_of_orElse_fail h
  rcases runs_bind.1 hruns with ⟨found, _, hexists, hrest⟩ | ⟨fault, hexists, -⟩
  · obtain rfl := quiet_pathExists _ _ _ hexists
    cases found with
    | false => exact .inl (runs_pure.1 hrest).2
    | true =>
      cases result with
      | error fault => exact .inl (unlink_error hrest)
      | ok _ => exact .inr (unlink_found hrest)
  · exact .inl (quiet_pathExists _ _ _ hexists)

section finds
variable {directory : Location} {name : Name}

theorem run_removeStale (h : host.Finds path directory name)
    (open_ : host.tree.get? (directory ++ [name.text]) ≠ some .directory) :
    Runs (removeStale path) host (.ok ()) (host.withTree (host.tree.erase (directory ++ [name.text]))) := by
  refine runs_orElse_fail_ok.2 (runs_bind_ok.2 ⟨_, host, run_pathExists h, ?_⟩)
  cases hget : host.tree.get? (directory ++ [name.text]) with
  | none =>
    rw [FileTree.erase_eq_self hget]
    exact runs_pure.2 ⟨rfl, rfl⟩
  | some entry =>
    cases entry with
    | directory => exact absurd hget open_
    | file bytes => exact run_unlink h hget
    | link target => exact absurd hget (h.finds.unlinked target)

theorem run_removeStale_directory (h : host.Finds path directory name)
    (blocked : host.tree.get? (directory ++ [name.text]) = some .directory) :
    ∃ fault, Runs (removeStale path) host (.error fault) host := by
  refine ⟨_, runs_orElse_fail_error.2 (.inr ⟨refusal path .isDirectory, ?_, rfl⟩)⟩
  refine runs_bind_error.2 (.inr ⟨_, host, run_pathExists h, ?_⟩)
  rw [blocked]
  refine runs_bind_error.2 (.inl (runs_ask.2 ⟨?_, rfl⟩))
  rw [if_neg h.clean, h.finds.unlink_directory blocked]
  rfl

end finds

/-- A file at a sibling, or its absence, is brought about unless a directory is in the way. -/
def Settles {α : Type} (host : Host) (path : Path) (directory : Location) (sibling : Sibling)
    (content : Option (List UInt8)) (act : HostM α) (a : α) : Prop :=
  (host.tree.get? (siblingAt directory path.stem sibling) ≠ some .directory →
    Runs act host (.ok a) (host.withTree (host.tree.put (siblingAt directory path.stem sibling) content))) ∧
  (host.tree.get? (siblingAt directory path.stem sibling) = some .directory →
    ∃ fault, Runs act host (.error fault) host)

section settle
variable {directory : Location}

theorem settles_writeDigest (h : host.Houses path directory) (sibling : Sibling)
    (unlinked : ∀ target, host.tree.get? (siblingAt directory path.stem sibling) ≠ some (.link target))
    (digest : Digest) :
    Settles host path directory sibling (some digest.bytes) (writeDigest (path.beside sibling) digest)
      (path.beside sibling) := by
  have hfinds := h.finds unlinked
  unfold Settles
  rw [siblingAt_eq]
  exact ⟨fun open_ => run_writeDigest hfinds open_ digest,
    fun blocked => run_writeDigest_directory hfinds blocked digest⟩

theorem settles_removeStale (h : host.Houses path directory) (sibling : Sibling)
    (unlinked : ∀ target, host.tree.get? (siblingAt directory path.stem sibling) ≠ some (.link target)) :
    Settles host path directory sibling none (removeStale (path.beside sibling)) () := by
  have hfinds := h.finds unlinked
  unfold Settles
  rw [siblingAt_eq]
  exact ⟨run_removeStale hfinds, run_removeStale_directory hfinds⟩

def legacyFile (guest : BuiltGuest) (path : Path) : HostM (Option Path) :=
  if guest.legacyId ≠ Digest.zero then some <$> writeDigest (path.beside .legacy) guest.legacyId
  else do
    removeStale (path.beside .legacy)
    pure none

def legacyPath (guest : BuiltGuest) (path : Path) : Option Path :=
  if guest.legacyId ≠ Digest.zero then some (path.beside .legacy) else none

theorem settles_legacyFile (h : host.Houses path directory)
    (unlinked : ∀ target, host.tree.get? (siblingAt directory path.stem .legacy) ≠ some (.link target))
    (guest : BuiltGuest) (binary : List UInt8) :
    Settles host path directory .legacy (guest.content binary .legacy) (legacyFile guest path)
      (legacyPath guest path) := by
  by_cases hzero : guest.legacyId ≠ Digest.zero
  · have hcontent : guest.content binary .legacy = some guest.legacyId.bytes := if_pos hzero
    obtain ⟨hopen, hblocked⟩ := settles_writeDigest h .legacy unlinked guest.legacyId
    rw [hcontent, legacyFile, legacyPath, if_pos hzero, if_pos hzero]
    refine ⟨fun open_ => runs_map_ok.2 ⟨_, hopen open_, rfl⟩, fun blocked => ?_⟩
    obtain ⟨fault, hfault⟩ := hblocked blocked
    exact ⟨fault, runs_map_error.2 hfault⟩
  · have hcontent : guest.content binary .legacy = none := if_neg hzero
    obtain ⟨hopen, hblocked⟩ := settles_removeStale h .legacy unlinked
    rw [hcontent, legacyFile, legacyPath, if_neg hzero, if_neg hzero]
    refine ⟨fun open_ => runs_bind_ok.2 ⟨(), _, hopen open_, runs_pure.2 ⟨rfl, rfl⟩⟩, fun blocked => ?_⟩
    obtain ⟨fault, hfault⟩ := hblocked blocked
    exact ⟨fault, runs_bind_error.2 (.inl hfault)⟩

end settle

theorem identifiers_eq (h : path.names ≠ []) (guest : BuiltGuest) :
    identifiers guest path = (do
      let legacy ← legacyFile guest path
      let written ← writeDigest (path.beside (.id guest.imageId.context)) guest.imageId.digest
      removeStale (path.beside (.id guest.imageId.context.other))
      pure (legacy, written)) := by
  have hpaths : identifierPaths path guest =
      .ok (path.beside (.id guest.imageId.context), path.beside (.id guest.imageId.context.other)) := by
    unfold identifierPaths
    rw [← Sibling.extension_id, ← Sibling.extension_id, Path.withExtension_eq_ok h, Path.withExtension_eq_ok h]
    rfl
  have hlegacy : path.withExtension ".iid" = .ok (path.beside .legacy) :=
    Path.withExtension_eq_ok h Sibling.legacy.extension
  unfold identifiers sibling legacyFile
  rw [hlegacy, hpaths]
  simp only [ofValue, pure_bind]
  split
  · rfl
  · simp only [bind_assoc, pure_bind]

def identifierOrder (guest : BuiltGuest) : List Sibling :=
  [.legacy, .id guest.imageId.context, .id guest.imageId.context.other]

def settled (host : Host) (path : Path) (directory : Location) (content : Sibling → Option (List UInt8))
    (siblings : List Sibling) : Host :=
  host.withTree (host.tree.putSiblings directory path.stem content siblings)

section order
variable {directory : Location} {content : Sibling → Option (List UInt8)}

theorem settled_concat (siblings : List Sibling) (sibling : Sibling) :
    settled host path directory content (siblings ++ [sibling]) =
      (settled host path directory content siblings).withTree
        ((settled host path directory content siblings).tree.put (siblingAt directory path.stem sibling)
          (content sibling)) := by
  unfold settled FileTree.putSiblings siblingChanges
  rw [List.map_append, FileTree.putAll_append]
  rfl

theorem get?_settled {siblings : List Sibling} {sibling : Sibling} (h : sibling ∉ siblings) :
    (settled host path directory content siblings).tree.get? (siblingAt directory path.stem sibling) =
      host.tree.get? (siblingAt directory path.stem sibling) := by
  apply FileTree.get?_putSiblings_of_notMem
  rintro other hother heq
  exact h ((siblingAt_inj.1 heq).2.2 ▸ hother)

theorem houses_settled (content : Sibling → Option (List UInt8)) (h : host.Houses path directory)
    {siblings : List Sibling}
    (open_ : ∀ sibling ∈ siblings, host.tree.get? (siblingAt directory path.stem sibling) ≠ some .directory)
    (unlinked : ∀ sibling ∈ siblings, ∀ target,
      host.tree.get? (siblingAt directory path.stem sibling) ≠ some (.link target)) :
    (settled host path directory content siblings).Houses path directory :=
  h.mono rfl (FileTree.stays_putSiblings open_ unlinked)

end order

theorem Settles.next {α β : Type} {directory : Location} {content : Sibling → Option (List UInt8)}
    {written : List Sibling} {sibling : Sibling} {act : HostM α} {a : α} {rest : α → HostM β}
    {answer : Except Fault β}
    (h : Settles (settled host path directory content written) path directory sibling (content sibling) act a)
    (fresh : sibling ∉ written)
    (hruns : Runs (act >>= rest) (settled host path directory content written) answer after) :
    (host.tree.get? (siblingAt directory path.stem sibling) ≠ some .directory ∧
      Runs (rest a) (settled host path directory content (written ++ [sibling])) answer after) ∨
    (host.tree.get? (siblingAt directory path.stem sibling) = some .directory ∧
      (∃ fault, answer = .error fault) ∧ after = settled host path directory content written) := by
  unfold Settles at h
  rw [get?_settled fresh, ← settled_concat] at h
  by_cases hblocked : host.tree.get? (siblingAt directory path.stem sibling) = some .directory
  · obtain ⟨fault, hfault⟩ := h.2 hblocked
    obtain ⟨rfl, rfl⟩ := (runs_bind_error.2 (.inl hfault)).unique hruns
    exact .inr ⟨hblocked, ⟨fault, rfl⟩, rfl⟩
  · refine .inl ⟨hblocked, ?_⟩
    unfold Runs at hruns
    rwa [run_bind_ok (h.1 hblocked)] at hruns

/-- Where the siblings lie in a directory and are no links, the files are settled in order, up to the first directory
in the way. -/
theorem identifiers_housed {directory : Location} (hnames : path.names ≠ []) (h : host.Houses path directory)
    {guest : BuiltGuest}
    (unlinked : ∀ sibling ∈ identifierOrder guest, ∀ target,
      host.tree.get? (siblingAt directory path.stem sibling) ≠ some (.link target))
    (binary : List UInt8) {answer : Except Fault (Option Path × Path)}
    (hruns : Runs (identifiers guest path) host answer after) :
    ∃ written left, written ++ left = identifierOrder guest ∧
      (∀ sibling ∈ written, host.tree.get? (siblingAt directory path.stem sibling) ≠ some .directory) ∧
      after = settled host path directory (guest.content binary) written ∧
      (left = [] ∧ answer = .ok (legacyPath guest path, path.beside (.id guest.imageId.context)) ∨
        ∃ sibling rest, left = sibling :: rest ∧ (∃ fault, answer = .error fault) ∧
          host.tree.get? (siblingAt directory path.stem sibling) = some .directory) := by
  rw [identifiers_eq hnames] at hruns
  have hfirst : Settles (settled host path directory (guest.content binary) []) path directory .legacy
      (guest.content binary .legacy) (legacyFile guest path) (legacyPath guest path) :=
    settles_legacyFile h (unlinked _ (by simp [identifierOrder])) guest binary
  rcases hfirst.next (by simp) hruns with ⟨hlegacyOpen, hruns⟩ | ⟨hblocked, hfails, rfl⟩
  swap
  · exact ⟨[], _, rfl, by simp, rfl, .inr ⟨_, _, rfl, hfails, hblocked⟩⟩
  -- The siblings still to come are as they were, and the directory has stayed.
  have hhouses : ∀ written left, written ++ left = identifierOrder guest →
      (∀ sibling ∈ written, host.tree.get? (siblingAt directory path.stem sibling) ≠ some .directory) →
      (settled host path directory (guest.content binary) written).Houses path directory ∧
      ∀ sibling ∈ left, sibling ∉ written → ∀ target,
        (settled host path directory (guest.content binary) written).tree.get?
          (siblingAt directory path.stem sibling) ≠ some (.link target) := by
    intro written left horder hopen
    constructor
    · exact houses_settled _ h hopen fun sibling hmem => unlinked sibling (horder ▸ List.mem_append_left _ hmem)
    · intro sibling hmem hfresh target
      rw [get?_settled hfresh]
      exact unlinked sibling (horder ▸ List.mem_append_right _ hmem) target
  have hopen₁ : ∀ sibling ∈ [] ++ [Sibling.legacy],
      host.tree.get? (siblingAt directory path.stem sibling) ≠ some .directory := by
    simpa using hlegacyOpen
  obtain ⟨hhouses₁, hunlinked₁⟩ := hhouses _ [_, _] rfl hopen₁
  have hsecond := settles_writeDigest hhouses₁ (.id guest.imageId.context) (hunlinked₁ _ (by simp) (by simp))
    guest.imageId.digest
  rw [← guest.content_own binary] at hsecond
  rcases Settles.next hsecond (by simp) hruns with ⟨hownOpen, hruns⟩ | ⟨hblocked, hfails, rfl⟩
  swap
  · exact ⟨_, _, rfl, hopen₁, rfl, .inr ⟨_, _, rfl, hfails, hblocked⟩⟩
  have hopen₂ : ∀ sibling ∈ [] ++ [Sibling.legacy] ++ [Sibling.id guest.imageId.context],
      host.tree.get? (siblingAt directory path.stem sibling) ≠ some .directory := by
    simpa using ⟨hlegacyOpen, hownOpen⟩
  have hdistinct : Sibling.id guest.imageId.context.other ∉
      [] ++ [Sibling.legacy] ++ [Sibling.id guest.imageId.context] := by
    cases guest.imageId.context <;> decide
  obtain ⟨hhouses₂, hunlinked₂⟩ := hhouses _ [_] rfl hopen₂
  have hthird := settles_removeStale hhouses₂ (.id guest.imageId.context.other) (hunlinked₂ _ (by simp) hdistinct)
  rw [← guest.content_other binary] at hthird
  rcases Settles.next hthird hdistinct hruns with ⟨hotherOpen, hruns⟩ | ⟨hblocked, hfails, rfl⟩
  swap
  · exact ⟨_, _, rfl, hopen₂, rfl, .inr ⟨_, _, rfl, hfails, hblocked⟩⟩
  obtain ⟨hanswer, rfl⟩ := runs_pure.1 hruns
  refine ⟨_, [], List.append_nil _, ?_, rfl, .inl ⟨rfl, hanswer⟩⟩
  simpa [identifierOrder] using ⟨hlegacyOpen, hownOpen, hotherOpen⟩

section nowhere

theorem writeDigest_nowhere (h : ∀ directory, ¬ host.Houses path directory)
    {sibling : Sibling} {digest : Digest} {answer : Except Fault Path}
    (hruns : Runs (writeDigest (path.beside sibling) digest) host answer after) :
    after = host ∧ ∃ fault, answer = .error fault := by
  cases answer with
  | error fault => exact ⟨writeDigest_error hruns, fault, rfl⟩
  | ok written =>
    obtain ⟨hclean, found, location, hwalk, -⟩ := writeFile_found (writeDigest_ok hruns).2
    exact absurd (Host.houses_of_walk hclean hwalk) (not_exists.2 h)

theorem removeStale_nowhere (h : ∀ directory, ¬ host.Houses path directory)
    {sibling : Sibling} {answer : Except Fault Unit}
    (hruns : Runs (removeStale (path.beside sibling)) host answer after) : after = host := by
  rcases removeStale_after hruns with hsame | ⟨hclean, location, entry, hwalk, -⟩
  · exact hsame
  · exact absurd (Host.houses_of_walk hclean hwalk) (not_exists.2 h)

theorem legacyFile_nowhere (h : ∀ directory, ¬ host.Houses path directory)
    {guest : BuiltGuest} {answer : Except Fault (Option Path)}
    (hruns : Runs (legacyFile guest path) host answer after) : after = host := by
  unfold legacyFile at hruns
  split at hruns
  · cases answer with
    | error fault => exact (writeDigest_nowhere h (runs_map_error.1 hruns)).1
    | ok written =>
      obtain ⟨_, hwritten, -⟩ := runs_map_ok.1 hruns
      exact (writeDigest_nowhere h hwritten).1
  · rcases runs_bind.1 hruns with ⟨_, middle, hremoved, hpure⟩ | ⟨fault, hremoved, -⟩
    · rw [(runs_pure.1 hpure).2]
      exact removeStale_nowhere h hremoved
    · exact removeStale_nowhere h hremoved

theorem identifiers_nameless (hnames : path.names = []) {guest : BuiltGuest}
    {answer : Except Fault (Option Path × Path)} (hruns : Runs (identifiers guest path) host answer after) :
    after = host ∧ ∃ fault, answer = .error fault := by
  unfold identifiers sibling at hruns
  rw [Path.withExtension_eq_error hnames] at hruns
  rcases runs_bind.1 hruns with ⟨written, middle, hfails, -⟩ | ⟨fault, hfails, rfl⟩
  · cases (runs_fail.1 hfails).1
  · exact ⟨(runs_fail.1 hfails).2, fault, rfl⟩

/-- Where the siblings lie in no directory, no file is written or removed. -/
theorem identifiers_nowhere (hnames : path.names ≠ [])
    (h : ∀ directory, ¬ host.Houses path directory) {guest : BuiltGuest}
    {answer : Except Fault (Option Path × Path)} (hruns : Runs (identifiers guest path) host answer after) :
    after = host ∧ ∃ fault, answer = .error fault := by
  rw [identifiers_eq hnames] at hruns
  rcases runs_bind.1 hruns with ⟨legacy, middle, hlegacy, hrest⟩ | ⟨fault, hlegacy, rfl⟩
  · obtain rfl := legacyFile_nowhere h hlegacy
    rcases runs_bind.1 hrest with ⟨written, last, hwrite, -⟩ | ⟨fault, hwrite, rfl⟩
    · obtain ⟨-, fault, hfault⟩ := writeDigest_nowhere h hwrite
      cases hfault
    · exact ⟨(writeDigest_nowhere h hwrite).1, fault, rfl⟩
  · exact ⟨legacyFile_nowhere h hlegacy, fault, rfl⟩

end nowhere

end Publish
end GuestForge
