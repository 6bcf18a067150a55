import GuestForge.Proofs.LinkFree
import GuestForge.Proofs.LinkedWalks
import GuestForge.Proofs.PathText
set_option autoImplicit false

/-!
# Where paths lead, links or none

What can be said of a path in any tree: what an operation on it found if it succeeded, where it leads once that has
changed, and that a path with a last name leads into the directory above it. `Finds` is the case in which what stands
there is no link; then all operations are about that entry.
-/
namespace GuestForge.FileTree

section paths
variable {tree other : FileTree} {current location directory : Location} {aim : Aim} {path : Path} {found : Reached}
  {entry : Entry} {name : Name}

theorem walk_iff : tree.walk current aim path = .ok found ↔ path.toString.utf8ByteSize < 4096 ∧
    Leads tree aim 40 (start current path) (path.names.map Name.text) found := by
  rw [← walkFrom_eq_ok, ← Nat.not_le]
  unfold walk
  split
  · simp [*]
  · simp only [*, not_false_eq_true, true_and]
    exact Iff.rfl

theorem status_iff : tree.status current path = .ok (location, entry) ↔
    tree.walk current .follow path = .ok (.entry location entry) := by
  unfold status
  cases tree.walk current .follow path with
  | error code => simp [bind, Except.bind]
  | ok found => cases found <;> simp [bind, Except.bind]

theorem read_iff {bytes : List UInt8} : tree.read current path = .ok bytes ↔
    ∃ location, tree.status current path = .ok (location, .file bytes) := by
  unfold read
  cases tree.status current path with
  | error code => simp [bind, Except.bind]
  | ok found =>
    obtain ⟨location, entry⟩ := found
    cases entry <;> simp [bind, Except.bind]

theorem writeLocation_open (h : tree.writeLocation current path = .ok location) :
    ∃ found, tree.walk current .write path = .ok found ∧ found.Open location := by
  unfold writeLocation at h
  cases hwalk : tree.walk current .write path with
  | error code =>
    rw [hwalk] at h
    cases h
  | ok found =>
    rw [hwalk] at h
    refine ⟨found, rfl, ?_⟩
    cases found with
    | vacant directory name =>
      cases h
      exact .vacant directory name
    | entry there entry =>
      cases entry with
      | directory => cases h
      | file bytes =>
        cases h
        exact .file _ bytes
      | link target => cases ((walk_iff.1 hwalk).2.stands).2

theorem makeDirectory_vacant {made : FileTree} (h : tree.makeDirectory current path = .ok made) :
    ∃ directory name, tree.walk current .stay path = .ok (.vacant directory name) ∧
      tree.get? (directory ++ [name]) = none ∧ made = tree.set (directory ++ [name]) .directory := by
  unfold makeDirectory at h
  cases hwalk : tree.walk current .stay path with
  | error code =>
    rw [hwalk] at h
    cases h
  | ok found =>
    rw [hwalk] at h
    cases found with
    | vacant directory name =>
      cases h
      exact ⟨directory, name, rfl, (walk_iff.1 hwalk).2.stands, rfl⟩
    | entry there entry => cases h

theorem unlink_entry {left : FileTree} (h : tree.unlink current path = .ok left) :
    ∃ location entry, tree.walk current .stay path = .ok (.entry location entry) ∧ entry ≠ .directory ∧
      left = tree.erase location := by
  unfold unlink at h
  cases hwalk : tree.walk current .stay path with
  | error code =>
    rw [hwalk] at h
    cases h
  | ok found =>
    rw [hwalk] at h
    cases found with
    | vacant directory name => cases h
    | entry there entry =>
      cases entry with
      | directory => cases h
      | file bytes =>
        cases h
        exact ⟨there, _, rfl, by simp, rfl⟩
      | link target =>
        cases h
        exact ⟨there, _, rfl, by simp, rfl⟩

theorem status_eq_ok (free : tree.LinkFree) (h : tree.status current path = .ok (location, entry)) :
    entry = .directory ∨ ∃ directory name, tree.Reaches current path directory name ∧
      location = directory ++ [name.text] ∧ tree.get? location = some entry := by
  rcases walk_eq_ok free (status_iff.1 h) with ⟨here, hfound⟩ | ⟨directory, name, hreaches, hfound⟩
  · cases hfound
    exact .inl rfl
  · exact .inr ⟨directory, name, hreaches, at?_eq_entry hfound.symm⟩

theorem read_eq_ok (free : tree.LinkFree) {bytes : List UInt8} (h : tree.read current path = .ok bytes) :
    ∃ directory name, tree.Reaches current path directory name ∧
      tree.get? (directory ++ [name.text]) = some (.file bytes) := by
  obtain ⟨location, hstatus⟩ := read_iff.1 h
  rcases status_eq_ok free hstatus with hdirectory | ⟨directory, name, hreaches, rfl, hget⟩
  · cases hdirectory
  · exact ⟨directory, name, hreaches, hget⟩

theorem writeLocation_eq_ok (free : tree.LinkFree) (h : tree.writeLocation current path = .ok location) :
    ∃ directory name, tree.Reaches current path directory name ∧ location = directory ++ [name.text] ∧
      tree.get? location ≠ some .directory := by
  obtain ⟨found, hwalk, hopen⟩ := writeLocation_open h
  rcases walk_eq_ok free hwalk with ⟨here, rfl⟩ | ⟨directory, name, hreaches, hfound⟩
  · cases hopen
  · refine ⟨directory, name, hreaches, ?_⟩
    cases hopen with
    | vacant here text =>
      obtain ⟨rfl, rfl, hget⟩ := at?_eq_vacant hfound.symm
      exact ⟨rfl, by simp [hget]⟩
    | file location bytes =>
      obtain ⟨rfl, hget⟩ := at?_eq_entry hfound.symm
      exact ⟨rfl, by simp [hget]⟩

theorem status_turn (h : tree.walk current aim path = .ok found) (stays : Stays tree other)
    (turns : Turns other found location entry) : other.status current path = .ok (location, entry) := by
  obtain ⟨hshort, hleads⟩ := walk_iff.1 h
  exact status_iff.2 (walk_iff.2 ⟨hshort, hleads.turn stays turns⟩)

theorem status_erase (h : tree.walk current .stay path = .ok (.entry location entry)) (open_ : entry ≠ .directory)
    (gone : Location × Entry) : (tree.erase location).status current path ≠ .ok gone := by
  obtain ⟨end_, entry'⟩ := gone
  intro hstatus
  obtain ⟨-, hleads⟩ := walk_iff.1 (status_iff.1 hstatus)
  exact (walk_iff.1 h).2.erased open_ end_ entry' hleads.walkFrom

theorem walk_directory (h : tree.walk current .follow path = .ok (.entry directory .directory)) :
    ∃ location entry, tree.walk current .stay path = .ok (.entry location entry) := by
  obtain ⟨hshort, hleads⟩ := walk_iff.1 h
  obtain ⟨location, entry, hstay⟩ := hleads.unfollowed
  exact ⟨location, entry, walk_iff.2 ⟨hshort, hstay⟩⟩

theorem moves_name (name : Name) : Moves [name.text] := ⟨name.text, List.mem_cons_self, name.valid.1⟩

theorem walk_above (named : path.names ≠ []) (h : tree.walk current aim path = .ok found) :
    ∃ directory, tree.walk current .follow path.parent = .ok (.entry directory .directory) := by
  obtain ⟨outer, name, hnames⟩ := (List.eq_nil_or_concat path.names).resolve_left named
  rw [List.concat_eq_append] at hnames
  obtain ⟨hshort, hleads⟩ := walk_iff.1 h
  rw [hnames, List.map_append] at hleads
  obtain ⟨directory, hfront⟩ := hleads.front (moves_name name)
  refine ⟨directory, walk_iff.2 ⟨Nat.lt_of_le_of_lt (Path.utf8ByteSize_parent named) hshort, ?_⟩⟩
  rw [Path.parent, hnames, List.dropLast_concat]
  exact hfront

theorem walk_parent {outer : List Name} (names : path.names = outer ++ [name]) (proper : name.text ≠ "..")
    (h : tree.walk current aim path = .ok found) :
    ∃ directory, tree.walk current .follow path.parent = .ok (.entry directory .directory) ∧
      name.text.utf8ByteSize ≤ 255 := by
  obtain ⟨directory, habove⟩ := walk_above (by simp [names]) h
  refine ⟨directory, habove, ?_⟩
  have hparent : path.parent.names = outer := by rw [Path.parent, names, List.dropLast_concat]
  obtain ⟨-, hleads⟩ := walk_iff.1 h
  obtain ⟨-, hfront⟩ := walk_iff.1 habove
  rw [hparent] at hfront
  obtain ⟨left, honward⟩ := hfront.onward
  have hlast : tree.walkFrom aim 40 (start current path) _ = _ := honward aim _ (moves_name name)
  rw [names, List.map_append, show [name].map Name.text = [name.text] from rfl] at hleads
  rw [hleads.walkFrom] at hlast
  by_contra hlong
  rw [walkFrom_cons (by simp [name.valid.1, name.valid.2.1]) proper, if_neg (by simp), if_pos (by omega)] at hlast
  cases hlast

theorem writeLocation_parent (h : tree.writeLocation current path = .ok location) :
    ∃ directory, tree.walk current .follow path.parent = .ok (.entry directory .directory) := by
  obtain ⟨found, hwalk, hopen⟩ := writeLocation_open h
  refine walk_above (fun hnil => ?_) hwalk
  obtain ⟨-, hleads⟩ := walk_iff.1 hwalk
  rw [hnil] at hleads
  cases hleads
  cases hopen

/-- A path leads to the entry in `directory`, links or none on the way there, and that entry is no link. -/
structure Finds (tree : FileTree) (current : Location) (path : Path) (directory : Location) (name : Name) : Prop where
  walk : ∀ aim, tree.walk current aim path = .ok (tree.at? directory name)
  unlinked : ∀ target, tree.get? (directory ++ [name.text]) ≠ some (.link target)

theorem Reaches.finds (h : tree.Reaches current path directory name) (free : tree.LinkFree) :
    tree.Finds current path directory name := ⟨h.walk free, free _⟩

theorem walkFrom_at {links : Nat} (proper : name.text ≠ "..") (fits : name.text.utf8ByteSize ≤ 255)
    (ends : aim = .stay ∨ ∀ target, tree.get? (directory ++ [name.text]) ≠ some (.link target)) :
    tree.walkFrom aim links directory [name.text] = .ok (tree.at? directory name) := by
  have hproper : Proper aim name.text [] := ⟨by simp [name.valid.1, name.valid.2.1], proper, by simp, fits⟩
  rw [walkFrom_proper hproper, at?]
  cases hget : tree.get? (directory ++ [name.text]) with
  | none => rfl
  | some entry =>
    cases entry with
    | directory => exact walkFrom_nil
    | file bytes => rfl
    | link target =>
      rcases ends with hstay | hunlinked
      · exact if_pos ⟨rfl, hstay⟩
      · exact absurd hget (hunlinked target)

theorem walk_at {outer : List Name} (names : path.names = outer ++ [name])
    (short : path.toString.utf8ByteSize < 4096)
    (parent : tree.walk current .follow path.parent = .ok (.entry directory .directory)) (proper : name.text ≠ "..")
    (fits : name.text.utf8ByteSize ≤ 255)
    (ends : aim = .stay ∨ ∀ target, tree.get? (directory ++ [name.text]) ≠ some (.link target)) :
    tree.walk current aim path = .ok (tree.at? directory name) := by
  obtain ⟨-, hleads⟩ := walk_iff.1 parent
  have hparent : path.parent.names = outer := by rw [Path.parent, names, List.dropLast_concat]
  rw [hparent] at hleads
  obtain ⟨left, honward⟩ := hleads.onward
  refine walk_iff.2 ⟨short, leads_of_walkFrom ?_⟩
  rw [names, List.map_append]
  exact (honward aim _ (moves_name name)).trans (walkFrom_at proper fits ends)

end paths

section finds
variable {tree : FileTree} {current directory : Location} {path : Path} {name : Name}

theorem Finds.status (h : tree.Finds current path directory name) :
    tree.status current path = match tree.get? (directory ++ [name.text]) with
      | none => .error .noEntry
      | some entry => .ok (directory ++ [name.text], entry) := by
  unfold FileTree.status
  rw [h.walk, at?]
  cases tree.get? (directory ++ [name.text]) <;> rfl

theorem Finds.read (h : tree.Finds current path directory name) {bytes : List UInt8}
    (file : tree.get? (directory ++ [name.text]) = some (.file bytes)) : tree.read current path = .ok bytes := by
  unfold FileTree.read
  rw [h.status, file]
  rfl

theorem Finds.writeLocation (h : tree.Finds current path directory name)
    (open_ : tree.get? (directory ++ [name.text]) ≠ some .directory) :
    tree.writeLocation current path = .ok (directory ++ [name.text]) := by
  unfold FileTree.writeLocation
  rw [h.walk, at?]
  cases hget : tree.get? (directory ++ [name.text]) with
  | none => rfl
  | some entry =>
    cases entry with
    | directory => exact absurd hget open_
    | file bytes => rfl
    | link target => exact absurd hget (h.unlinked target)

theorem Finds.writeLocation_directory (h : tree.Finds current path directory name)
    (blocked : tree.get? (directory ++ [name.text]) = some .directory) :
    tree.writeLocation current path = .error .isDirectory := by
  unfold FileTree.writeLocation
  rw [h.walk, at?, blocked]
  rfl

theorem Finds.unlink (h : tree.Finds current path directory name) {bytes : List UInt8}
    (file : tree.get? (directory ++ [name.text]) = some (.file bytes)) :
    tree.unlink current path = .ok (tree.erase (directory ++ [name.text])) := by
  unfold FileTree.unlink
  rw [h.walk, at?, file]
  rfl

theorem Finds.unlink_directory (h : tree.Finds current path directory name)
    (blocked : tree.get? (directory ++ [name.text]) = some .directory) :
    tree.unlink current path = .error .isDirectory := by
  unfold FileTree.unlink
  rw [h.walk, at?, blocked]
  rfl

theorem Reaches.read (free : tree.LinkFree) (h : tree.Reaches current path directory name) {bytes : List UInt8}
    (file : tree.get? (directory ++ [name.text]) = some (.file bytes)) : tree.read current path = .ok bytes :=
  (h.finds free).read file

end finds

end GuestForge.FileTree
