import GuestForge.Proofs.LinkFree
set_option autoImplicit false

/-!
# Changes to a tree

A change puts a file at a location or takes away what is there. Of several changes the last one at a location
decides, so a list of changes can be read without a tree, and repeating it changes nothing.
-/
namespace GuestForge

/-- A location and the bytes of the file there from now on, or none for no file. -/
abbrev Change := Location × Option (List UInt8)

def lastChange : List Change → Location → Option (Option (List UInt8))
  | [], _ => none
  | change :: rest, location => (lastChange rest location).or (if change.1 = location then some change.2 else none)

section last
variable {changes : List Change} {location : Location}

theorem lastChange_append (first rest : List Change) (location : Location) :
    lastChange (first ++ rest) location = (lastChange rest location).or (lastChange first location) := by
  induction first with
  | nil => exact Option.or_none.symm
  | cons change first ih =>
    rw [List.cons_append, lastChange, ih, lastChange, Option.or_assoc]

theorem lastChange_mem {content : Option (List UInt8)} (h : lastChange changes location = some content) :
    (location, content) ∈ changes := by
  induction changes with
  | nil => cases h
  | cons change rest ih =>
    rw [lastChange, Option.or_eq_some_iff] at h
    rcases h with hrest | ⟨-, hfirst⟩
    · exact List.mem_cons_of_mem _ (ih hrest)
    · split at hfirst
      · subst_vars
        cases hfirst
        exact List.mem_cons_self
      · cases hfirst

theorem lastChange_eq_none (h : ∀ change ∈ changes, change.1 ≠ location) : lastChange changes location = none := by
  cases hlast : lastChange changes location with
  | none => rfl
  | some content => exact absurd rfl (h _ (lastChange_mem hlast))

theorem exists_lastChange {change : Change} (h : change ∈ changes) :
    ∃ content, lastChange changes change.1 = some content := by
  induction changes with
  | nil => cases h
  | cons first rest ih =>
    rw [lastChange]
    rcases List.mem_cons.1 h with rfl | hrest
    · rw [if_pos rfl]
      cases lastChange rest change.1 <;> exact ⟨_, rfl⟩
    · obtain ⟨content, hcontent⟩ := ih hrest
      exact ⟨content, by rw [hcontent]; rfl⟩

end last

namespace FileTree

def put (tree : FileTree) (location : Location) : Option (List UInt8) → FileTree
  | some bytes => tree.set location (.file bytes)
  | none => tree.erase location

def putAll (tree : FileTree) (changes : List Change) : FileTree :=
  changes.foldl (fun tree change => tree.put change.1 change.2) tree

theorem get?_put (tree : FileTree) (location other : Location) (content : Option (List UInt8)) :
    (tree.put location content).get? other = if location = other then content.map .file else tree.get? other := by
  cases content with
  | none => exact get?_erase tree location other
  | some bytes => exact get?_set tree location other _

theorem LinkFree.put {tree : FileTree} (free : tree.LinkFree) (location : Location)
    (content : Option (List UInt8)) : (tree.put location content).LinkFree := by
  intro other target
  rw [get?_put]
  split
  · cases content <;> simp
  · exact free other target

theorem directory_put {tree : FileTree} {location other : Location} {content : Option (List UInt8)}
    (open_ : tree.get? location ≠ some .directory) (h : tree.get? other = some .directory) :
    (tree.put location content).get? other = some .directory := by
  rw [get?_put, if_neg]
  · exact h
  · rintro rfl
    exact open_ h

theorem putAll_append (tree : FileTree) (first rest : List Change) :
    tree.putAll (first ++ rest) = (tree.putAll first).putAll rest := List.foldl_append

theorem get?_putAll (tree : FileTree) (changes : List Change) (location : Location) :
    (tree.putAll changes).get? location = match lastChange changes location with
      | some content => content.map .file
      | none => tree.get? location := by
  induction changes generalizing tree with
  | nil => rfl
  | cons change rest ih =>
    change ((tree.put change.1 change.2).putAll rest).get? location = _
    rw [ih, lastChange, get?_put]
    cases lastChange rest location with
    | some content => rfl
    | none => by_cases hlocation : change.1 = location <;> simp [hlocation]

theorem LinkFree.putAll {tree : FileTree} (free : tree.LinkFree) (changes : List Change) :
    (tree.putAll changes).LinkFree := by
  induction changes generalizing tree with
  | nil => exact free
  | cons change rest ih => exact ih (free.put _ _)

theorem directory_putAll {tree : FileTree} {changes : List Change}
    (open_ : ∀ change ∈ changes, tree.get? change.1 ≠ some .directory) {location : Location}
    (h : tree.get? location = some .directory) : (tree.putAll changes).get? location = some .directory := by
  rw [get?_putAll, lastChange_eq_none]
  · exact h
  · rintro change hchange rfl
    exact open_ change hchange h

theorem open_putAll {tree : FileTree} {changes : List Change} {location : Location}
    (h : tree.get? location ≠ some .directory) : (tree.putAll changes).get? location ≠ some .directory := by
  rw [get?_putAll]
  cases lastChange changes location with
  | none => exact h
  | some content => cases content <;> simp

theorem putAll_eq_self {tree : FileTree} {changes : List Change}
    (h : ∀ location content, lastChange changes location = some content → tree.get? location = content.map .file) :
    tree.putAll changes = tree := by
  ext location : 1
  rw [get?_putAll]
  cases hlast : lastChange changes location with
  | none => rfl
  | some content => exact (h location content hlast).symm

end FileTree

end GuestForge
