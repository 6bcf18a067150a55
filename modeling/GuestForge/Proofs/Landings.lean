import GuestForge.Proofs.LinkedPaths
set_option autoImplicit false

/-!
# Where paths land

A path lands at a location if it leads, links followed, to a file there or to nothing where a file can be made. Writing
a file somewhere leaves every path landing where it did. Without an entry, a path lands where that was or where it
landed with it.
-/
namespace GuestForge.FileTree

def Leaf (tree : FileTree) (location : Location) : Prop :=
  ∀ entry, tree.get? location = some entry → ∃ bytes, entry = .file bytes

/-- Two trees that differ at most at one location, which is a leaf of both. -/
structure Alike (place : Location) (tree other : FileTree) : Prop where
  same : ∀ location, location ≠ place → other.get? location = tree.get? location
  leaf : tree.Leaf place
  leaf_other : other.Leaf place

/-- Two walks that end at the same directory, or both at a location where a file is or can be made. -/
inductive Reached.Same : Reached → Reached → Prop where
  | directory (location : Location) : Same (.entry location .directory) (.entry location .directory)
  | opened {found found' : Reached} {location : Location} (open_ : found.Open location)
      (open' : found'.Open location) : Same found found'

section walks
variable {tree other : FileTree} {links : Nat} {here place location : Location} {steps : List String} {step : String}
  {found : Reached}

theorem Leaf.not_directory (h : tree.Leaf place) : tree.get? place ≠ some .directory := by
  intro hget
  obtain ⟨bytes, hfile⟩ := h _ hget
  cases hfile

theorem Leaf.not_link (h : tree.Leaf place) (target : String) : tree.get? place ≠ some (.link target) := by
  intro hget
  obtain ⟨bytes, hfile⟩ := h _ hget
  cases hfile

theorem leaf_of_none (h : tree.get? place = none) : tree.Leaf place := by
  intro entry hget
  rw [h] at hget
  cases hget

theorem leaf_of_file {bytes : List UInt8} (h : tree.get? place = some (.file bytes)) : tree.Leaf place := by
  intro entry hget
  rw [h] at hget
  exact ⟨bytes, (Option.some.inj hget).symm⟩

theorem Reached.Open.leaf {aim : Aim} (h : found.Open place) (stands : Stands tree aim found) : tree.Leaf place := by
  cases h with
  | vacant directory name => exact leaf_of_none stands
  | file location bytes => exact leaf_of_file stands

theorem Reached.Open.unique {place' : Location} (h : found.Open place) (h' : found.Open place') : place = place' := by
  cases h <;> cases h' <;> rfl

theorem Alike.refl (leaf : tree.Leaf place) : Alike place tree tree := ⟨fun _ _ => rfl, leaf, leaf⟩

theorem Alike.symm (h : Alike place tree other) : Alike place other tree :=
  ⟨fun location hne => (h.same location hne).symm, h.leaf_other, h.leaf⟩

theorem alike_set (leaf : tree.Leaf place) (bytes : List UInt8) : Alike place tree (tree.set place (.file bytes)) := by
  have hfile : (tree.set place (.file bytes)).get? place = some (.file bytes) := by rw [get?_set, if_pos rfl]
  exact ⟨fun location hne => by rw [get?_set, if_neg hne.symm], leaf, leaf_of_file hfile⟩

theorem Alike.leaf_at (h : Alike place tree other) (leaf : tree.Leaf location) : other.Leaf location := by
  by_cases hplace : location = place
  · rw [hplace]
    exact h.leaf_other
  · intro entry hget
    rw [h.same location hplace] at hget
    exact leaf entry hget

theorem Alike.link_iff (h : Alike place tree other) {target : String} :
    other.get? location = some (.link target) ↔ tree.get? location = some (.link target) := by
  by_cases hplace : location = place
  · rw [hplace]
    exact iff_of_false (h.leaf_other.not_link target) (h.leaf.not_link target)
  · rw [h.same location hplace]

theorem Alike.erase (h : Alike place tree other) (gone : Location) : Alike place (tree.erase gone) (other.erase gone) := by
  have hleaf : ∀ {tree : FileTree}, tree.Leaf place → (tree.erase gone).Leaf place := by
    intro tree leaf entry hget
    rw [get?_erase] at hget
    split at hget
    · cases hget
    · exact leaf entry hget
  refine ⟨fun location hne => ?_, hleaf h.leaf, hleaf h.leaf_other⟩
  rw [get?_erase, get?_erase, h.same location hne]

theorem leads_leaf (proper : Proper .follow step []) (leaf : tree.Leaf (here ++ [step])) :
    ∃ found, Leads tree .follow links here [step] found ∧ found.Open (here ++ [step]) := by
  cases hget : tree.get? (here ++ [step]) with
  | none => exact ⟨_, .vacant proper hget, .vacant here step⟩
  | some entry =>
    obtain ⟨bytes, rfl⟩ := leaf entry hget
    exact ⟨_, .file proper hget, .file _ bytes⟩

/-- Walks in two trees that are alike take the same way. -/
theorem Leads.alike (h : Leads tree .follow links here steps found) (alike : Alike place tree other) :
    ∃ found', Leads other .follow links here steps found' ∧ found.Same found' := by
  induction h with
  | here links here => exact ⟨_, .here links here, .directory here⟩
  | stay idle onward ih =>
    obtain ⟨found', honward, hsame⟩ := ih
    exact ⟨found', .stay idle honward, hsame⟩
  | up onward ih =>
    obtain ⟨found', honward, hsame⟩ := ih
    exact ⟨found', .up honward, hsame⟩
  | enter proper there onward ih =>
    obtain ⟨found', honward, hsame⟩ := ih
    refine ⟨found', .enter proper ?_ honward, hsame⟩
    rw [alike.same _ fun hplace => alike.leaf.not_directory (hplace ▸ there), there]
  | @follow links here step rest found target proper there followed onward ih =>
    obtain ⟨found', honward, hsame⟩ := ih
    refine ⟨found', .follow proper ?_ followed honward, hsame⟩
    rw [alike.same _ fun hplace => alike.leaf.not_link target (hplace ▸ there), there]
  | @vacant links here step proper there =>
    obtain ⟨found', hleads, hopen⟩ := leads_leaf proper (alike.leaf_at (leaf_of_none there))
    exact ⟨found', hleads, .opened (.vacant here step) hopen⟩
  | @file links here step bytes proper there =>
    obtain ⟨found', hleads, hopen⟩ := leads_leaf proper (alike.leaf_at (leaf_of_file there))
    exact ⟨found', hleads, .opened (.file _ bytes) hopen⟩
  | link proper there stays => cases stays

/-- A walk without an entry ends where that was, or takes the same way with it. -/
theorem Leads.of_erase (h : Leads (tree.erase place) .follow links here steps found) :
    found.Open place ∨ Leads tree .follow links here steps found := by
  have hkept : ∀ {location entry}, (tree.erase place).get? location = some entry → tree.get? location = some entry := by
    intro location entry hget
    rw [get?_erase] at hget
    split at hget
    · cases hget
    · exact hget
  induction h with
  | here links here => exact .inr (.here links here)
  | stay idle onward ih => exact ih.imp_right (.stay idle)
  | up onward ih => exact ih.imp_right .up
  | enter proper there onward ih => exact ih.imp_right (.enter proper (hkept there))
  | follow proper there followed onward ih => exact ih.imp_right (.follow proper (hkept there) followed)
  | @vacant links here step proper there =>
    rw [get?_erase] at there
    split at there
    · subst_vars
      exact .inl (.vacant here step)
    · exact .inr (.vacant proper there)
  | file proper there => exact .inr (.file proper (hkept there))
  | link proper there stays => cases stays

/-- A file is written where the links lead that a reader would follow. -/
theorem Leads.toFollow (h : Leads tree .write links here steps found) : Leads tree .follow links here steps found := by
  induction h with
  | here links here => exact .here links here
  | stay idle onward ih => exact .stay idle ih
  | up onward ih => exact .up ih
  | enter proper there onward ih => exact .enter proper.toFollow there ih
  | follow proper there followed onward ih => exact .follow proper.toFollow there (fun h => Aim.noConfusion h.2) ih
  | vacant proper there => exact .vacant proper.toFollow there
  | file proper there => exact .file proper.toFollow there
  | link proper there stays => cases stays

end walks

/-- The path leads to a file at the location, or to nothing where it would be made. -/
def Lands (tree : FileTree) (current : Location) (path : Path) (place : Location) : Prop :=
  ∃ found, tree.walk current .follow path = .ok found ∧ found.Open place

section paths
variable {tree other : FileTree} {current place location : Location} {path : Path}

theorem lands_of_writeLocation (h : tree.writeLocation current path = .ok location) :
    tree.Lands current path location := by
  obtain ⟨found, hwalk, hopen⟩ := writeLocation_open h
  obtain ⟨hshort, hleads⟩ := walk_iff.1 hwalk
  exact ⟨found, walk_iff.2 ⟨hshort, hleads.toFollow⟩, hopen⟩

theorem Lands.unique (h : tree.Lands current path place) (h' : tree.Lands current path location) : place = location := by
  obtain ⟨found, hwalk, hopen⟩ := h
  obtain ⟨found', hwalk', hopen'⟩ := h'
  cases hwalk.symm.trans hwalk'
  exact hopen.unique hopen'

theorem Lands.leaf (h : tree.Lands current path place) : tree.Leaf place := by
  obtain ⟨found, hwalk, hopen⟩ := h
  exact hopen.leaf (walk_iff.1 hwalk).2.stands

theorem Lands.set_ne_none_iff (h : tree.Lands current path location) {bytes : List UInt8} :
    (tree.set location (.file bytes)).get? place ≠ none ↔ tree.get? place ≠ none ∨ tree.Lands current path place := by
  by_cases hplace : location = place
  · rw [get?_set, if_pos hplace]
    exact iff_of_true (by simp) (.inr (hplace ▸ h))
  · rw [get?_set, if_neg hplace]
    exact ⟨.inl, fun hor => hor.resolve_right fun hlands => hplace (h.unique hlands)⟩

/-- What is read is the file that the path lands at. -/
theorem read_iff_lands {bytes : List UInt8} : tree.read current path = .ok bytes ↔
    ∃ place, tree.Lands current path place ∧ tree.get? place = some (.file bytes) := by
  rw [read_iff]
  constructor
  · rintro ⟨place, hstatus⟩
    have hwalk := status_iff.1 hstatus
    exact ⟨place, ⟨_, hwalk, .file place bytes⟩, (walk_iff.1 hwalk).2.stands⟩
  · rintro ⟨place, ⟨found, hwalk, hopen⟩, hfile⟩
    have hstands := (walk_iff.1 hwalk).2.stands
    cases hopen with
    | vacant directory name =>
      rw [show tree.get? (directory ++ [name]) = none from hstands] at hfile
      cases hfile
    | file place other =>
      rw [show tree.get? place = some (.file other) from hstands] at hfile
      cases hfile
      exact ⟨place, status_iff.2 hwalk⟩

/-- A path leads somewhere if it leads to a directory or lands at a file. -/
theorem status_iff_lands : (∃ found, tree.status current path = .ok found) ↔
    (∃ directory, tree.status current path = .ok (directory, .directory)) ∨
      ∃ place, tree.Lands current path place ∧ tree.get? place ≠ none := by
  constructor
  · rintro ⟨⟨place, entry⟩, hstatus⟩
    have hwalk := status_iff.1 hstatus
    cases entry with
    | directory => exact .inl ⟨place, hstatus⟩
    | file bytes =>
      have hget : tree.get? place = some (.file bytes) := (walk_iff.1 hwalk).2.stands
      exact .inr ⟨place, ⟨_, hwalk, .file place bytes⟩, by simp [hget]⟩
    | link target => cases ((walk_iff.1 hwalk).2.stands).2
  · rintro (⟨directory, hstatus⟩ | ⟨place, ⟨found, hwalk, hopen⟩, hsome⟩)
    · exact ⟨_, hstatus⟩
    · cases hopen with
      | vacant directory name => exact absurd (walk_iff.1 hwalk).2.stands hsome
      | file place bytes => exact ⟨_, status_iff.2 hwalk⟩

section alike
variable (h : Alike place tree other)
include h

theorem Lands.alike (lands : tree.Lands current path location) : other.Lands current path location := by
  obtain ⟨found, hwalk, hopen⟩ := lands
  obtain ⟨hshort, hleads⟩ := walk_iff.1 hwalk
  obtain ⟨found', hleads', hsame⟩ := hleads.alike h
  refine ⟨found', walk_iff.2 ⟨hshort, hleads'⟩, ?_⟩
  cases hsame with
  | directory there => cases hopen
  | opened open_ open' => rwa [hopen.unique open_]

theorem Alike.lands_iff : other.Lands current path location ↔ tree.Lands current path location :=
  ⟨Lands.alike h.symm, Lands.alike h⟩

theorem Alike.directory (there : tree.status current path = .ok (location, .directory)) :
    other.status current path = .ok (location, .directory) := by
  obtain ⟨hshort, hleads⟩ := walk_iff.1 (status_iff.1 there)
  obtain ⟨found', hleads', hsame⟩ := hleads.alike h
  cases hsame with
  | directory there => exact status_iff.2 (walk_iff.2 ⟨hshort, hleads'⟩)
  | opened open_ open' => cases open_

end alike

theorem Lands.of_erase (h : (tree.erase place).Lands current path location) :
    location = place ∨ tree.Lands current path location := by
  obtain ⟨found, hwalk, hopen⟩ := h
  obtain ⟨hshort, hleads⟩ := walk_iff.1 hwalk
  rcases hleads.of_erase with hplace | hleads
  · exact .inl (hopen.unique hplace)
  · exact .inr ⟨found, walk_iff.2 ⟨hshort, hleads⟩, hopen⟩

theorem directory_of_erase (h : (tree.erase place).status current path = .ok (location, .directory)) :
    tree.status current path = .ok (location, .directory) := by
  obtain ⟨hshort, hleads⟩ := walk_iff.1 (status_iff.1 h)
  rcases hleads.of_erase with hplace | hleads
  · cases hplace
  · exact status_iff.2 (walk_iff.2 ⟨hshort, hleads⟩)

end paths

end GuestForge.FileTree
