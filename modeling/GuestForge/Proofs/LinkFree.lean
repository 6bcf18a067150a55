import GuestForge.FileTree.Walk
import Mathlib.Data.List.Induction
set_option autoImplicit false

/-!
# Walking where there are no links

In a tree without links the location of a path is that of its names, with `..` undone by its parent, and what a
walk is for makes no difference. `stroll` is the walk that is left: it looks up one name after the other, each in
the directory that the ones before lead to.
-/
namespace GuestForge.FileTree

def LinkFree (tree : FileTree) : Prop := ∀ location target, tree.get? location ≠ some (.link target)

def step (here : Location) (name : Name) : Location :=
  if name.text = ".." then here.dropLast else here ++ [name.text]

def start (current : Location) (path : Path) : Location := if path.anchor = .relative then current else []

/-- Where the names of a path lead, whatever the tree holds. -/
def spot (current : Location) (path : Path) : Location := path.names.foldl step (start current path)

def look (tree : FileTree) (here : Location) (name : Name) : Except ErrorCode Reached :=
  if name.text = ".." then .ok (.entry here.dropLast .directory)
  else if 255 < name.text.utf8ByteSize then .error .nameTooLong
  else match tree.get? (here ++ [name.text]) with
    | none => .ok (.vacant here name.text)
    | some entry => .ok (.entry (here ++ [name.text]) entry)

def enter (reached : Except ErrorCode Reached) (next : Location → Except ErrorCode Reached) :
    Except ErrorCode Reached :=
  match reached with
  | .ok (.entry here .directory) => next here
  | .ok (.entry _ _) => .error .notDirectory
  | .ok (.vacant _ _) => .error .noEntry
  | .error code => .error code

def lookAll (tree : FileTree) (reached : Except ErrorCode Reached) (names : List Name) : Except ErrorCode Reached :=
  names.foldl (fun reached name => enter reached fun here => tree.look here name) reached

def stroll (tree : FileTree) (here : Location) (names : List Name) : Except ErrorCode Reached :=
  tree.lookAll (.ok (.entry here .directory)) names

theorem lookAll_error (tree : FileTree) (code : ErrorCode) (names : List Name) :
    tree.lookAll (.error code) names = .error code := by
  induction names with
  | nil => rfl
  | cons name rest ih => exact ih

theorem lookAll_vacant (tree : FileTree) (here : Location) (text : String) (names : List Name) :
    tree.lookAll (.ok (.vacant here text)) names =
      if names = [] then .ok (.vacant here text) else .error .noEntry := by
  cases names with
  | nil => rfl
  | cons name rest => exact tree.lookAll_error .noEntry rest

theorem lookAll_file (tree : FileTree) (here : Location) (bytes : List UInt8) (names : List Name) :
    tree.lookAll (.ok (.entry here (.file bytes))) names =
      if names = [] then .ok (.entry here (.file bytes)) else .error .notDirectory := by
  cases names with
  | nil => rfl
  | cons name rest => exact tree.lookAll_error .notDirectory rest

theorem stroll_cons (tree : FileTree) (here : Location) (name : Name) (rest : List Name) :
    tree.stroll here (name :: rest) = tree.lookAll (tree.look here name) rest := rfl

theorem stroll_concat (tree : FileTree) (here : Location) (names : List Name) (name : Name) :
    tree.stroll here (names ++ [name]) = enter (tree.stroll here names) fun there => tree.look there name := by
  rw [stroll, lookAll, List.foldl_append]
  rfl

theorem walkSteps_eq_stroll {tree : FileTree} (free : tree.LinkFree) (aim : Aim)
    (follow : Location → List String → Except ErrorCode Reached) (here : Location) (names : List Name) :
    tree.walkSteps aim follow here (names.map Name.text) = tree.stroll here names := by
  induction names generalizing here with
  | nil => rfl
  | cons name rest ih =>
    have hstays : ¬ (name.text = "" ∨ name.text = ".") := fun h => h.elim name.valid.1 name.valid.2.1
    have hslashes : ¬ (aim = .write ∧ rest.map Name.text ≠ [] ∧ (rest.map Name.text).all (· = "")) := by
      rintro ⟨-, hne, hall⟩
      cases rest with
      | nil => exact hne rfl
      | cons next rest => simp [next.valid.1] at hall
    rw [List.map_cons, walkSteps, stroll_cons, look, if_neg hstays, if_neg hslashes]
    split
    · exact ih _
    · split
      · exact (tree.lookAll_error _ rest).symm
      · cases hget : tree.get? (here ++ [name.text]) with
        | none => simp only [lookAll_vacant, List.map_eq_nil_iff]
        | some entry =>
          cases entry with
          | directory => exact ih _
          | file bytes => simp only [lookAll_file, List.map_eq_nil_iff]
          | link target => exact absurd hget (free _ target)

theorem walk_eq_stroll {tree : FileTree} (free : tree.LinkFree) (current : Location) (aim : Aim) (path : Path) :
    tree.walk current aim path =
      if 4096 ≤ path.toString.utf8ByteSize then .error .nameTooLong
      else tree.stroll (start current path) path.names := by
  unfold walk
  split
  · rfl
  · exact walkSteps_eq_stroll free aim _ _ path.names

theorem enter_eq_ok {reached : Except ErrorCode Reached} {next : Location → Except ErrorCode Reached} {found : Reached}
    (h : enter reached next = .ok found) :
    ∃ here, reached = .ok (.entry here .directory) ∧ next here = .ok found := by
  unfold enter at h
  split at h
  · exact ⟨_, rfl, h⟩
  · cases h
  · cases h
  · cases h

theorem look_directory {tree : FileTree} {here there : Location} {name : Name}
    (h : tree.look here name = .ok (.entry there .directory)) :
    there = step here name ∧ (name.text = ".." ∨
      name.text.utf8ByteSize ≤ 255 ∧ tree.get? (here ++ [name.text]) = some .directory) := by
  unfold look at h
  unfold step
  split at h
  · rw [if_pos ‹_›]
    cases h
    exact ⟨rfl, .inl ‹_›⟩
  · rw [if_neg ‹_›]
    split at h
    · cases h
    · split at h
      · cases h
      · cases h
        exact ⟨rfl, .inr ⟨Nat.le_of_not_lt ‹_›, ‹_›⟩⟩

theorem stroll_directory {tree : FileTree} {here there : Location} {names : List Name}
    (h : tree.stroll here names = .ok (.entry there .directory)) : there = names.foldl step here := by
  induction names using List.reverseRecOn generalizing there with
  | nil =>
    cases h
    rfl
  | append_singleton names name ih =>
    rw [stroll_concat] at h
    obtain ⟨middle, hm, hl⟩ := enter_eq_ok h
    rw [List.foldl_append, ← ih hm]
    exact (look_directory hl).1

/-- A directory stays within reach while the directories on the way to it stay. -/
theorem stroll_directory_mono {tree other : FileTree}
    (stay : ∀ location, tree.get? location = some .directory → other.get? location = some .directory)
    {here there : Location} {names : List Name} (h : tree.stroll here names = .ok (.entry there .directory)) :
    other.stroll here names = .ok (.entry there .directory) := by
  induction names using List.reverseRecOn generalizing there with
  | nil => exact h
  | append_singleton names name ih =>
    rw [stroll_concat] at h ⊢
    obtain ⟨middle, hm, hl⟩ := enter_eq_ok h
    rw [ih hm]
    obtain ⟨rfl, hup | ⟨hfits, hdir⟩⟩ := look_directory hl
    · simp [enter, look, step, hup]
    · by_cases hup : name.text = ".."
      · simp [enter, look, step, hup]
      · simp [enter, look, step, hup, stay _ hdir, Nat.not_lt.2 hfits]

theorem erase_eq_self {tree : FileTree} {location : Location} (h : tree.get? location = none) :
    tree.erase location = tree := by
  ext other : 1
  rw [get?_erase]
  split
  · subst_vars
    exact h.symm
  · rfl

/-- `directory` is there, and `name` is the last name of a path that leads into it. -/
structure Reaches (tree : FileTree) (current : Location) (path : Path) (directory : Location) (name : Name) :
    Prop where
  short : path.toString.utf8ByteSize < 4096
  names : ∃ outer, path.names = outer ++ [name] ∧
    tree.stroll (start current path) outer = .ok (.entry directory .directory)
  proper : name.text ≠ ".."
  fits : name.text.utf8ByteSize ≤ 255

def at? (tree : FileTree) (directory : Location) (name : Name) : Reached :=
  match tree.get? (directory ++ [name.text]) with
  | none => .vacant directory name.text
  | some entry => .entry (directory ++ [name.text]) entry

section reach
variable {tree : FileTree} {current directory : Location} {path : Path} {name : Name}

theorem at?_eq_vacant {here : Location} {text : String} (h : tree.at? directory name = .vacant here text) :
    here = directory ∧ text = name.text ∧ tree.get? (directory ++ [name.text]) = none := by
  unfold at? at h
  cases hget : tree.get? (directory ++ [name.text]) with
  | none =>
    rw [hget] at h
    cases h
    exact ⟨rfl, rfl, rfl⟩
  | some entry =>
    rw [hget] at h
    cases h

theorem at?_eq_entry {location : Location} {entry : Entry} (h : tree.at? directory name = .entry location entry) :
    location = directory ++ [name.text] ∧ tree.get? location = some entry := by
  unfold at? at h
  cases hget : tree.get? (directory ++ [name.text]) with
  | none =>
    rw [hget] at h
    cases h
  | some found =>
    rw [hget] at h
    cases h
    exact ⟨rfl, hget⟩

theorem look_proper (proper : name.text ≠ "..") (fits : name.text.utf8ByteSize ≤ 255) :
    tree.look directory name = .ok (tree.at? directory name) := by
  unfold look at?
  rw [if_neg proper, if_neg (Nat.not_lt.2 fits)]
  split <;> rfl

theorem Reaches.location (h : tree.Reaches current path directory name) :
    spot current path = directory ++ [name.text] := by
  obtain ⟨outer, hnames, hdir⟩ := h.names
  rw [spot, hnames, List.foldl_append, ← stroll_directory hdir]
  exact if_neg h.proper

theorem Reaches.walk (free : tree.LinkFree) (h : tree.Reaches current path directory name) (aim : Aim) :
    tree.walk current aim path = .ok (tree.at? directory name) := by
  obtain ⟨outer, hnames, hdir⟩ := h.names
  rw [walk_eq_stroll free, if_neg (Nat.not_le.2 h.short), hnames, stroll_concat, hdir]
  exact look_proper h.proper h.fits

theorem walk_eq_ok (free : tree.LinkFree) {aim : Aim} {found : Reached} (h : tree.walk current aim path = .ok found) :
    (∃ here, found = .entry here .directory) ∨
      ∃ directory name, tree.Reaches current path directory name ∧ found = tree.at? directory name := by
  rw [walk_eq_stroll free] at h
  split at h
  · cases h
  · rename_i hshort
    rcases List.eq_nil_or_concat path.names with hnil | ⟨outer, name, hnames⟩
    · rw [hnil] at h
      cases h
      exact .inl ⟨_, rfl⟩
    · rw [hnames, List.concat_eq_append, stroll_concat] at h
      obtain ⟨directory, hdir, hlook⟩ := enter_eq_ok h
      by_cases hup : name.text = ".."
      · rw [look, if_pos hup] at hlook
        cases hlook
        exact .inl ⟨_, rfl⟩
      · by_cases hfits : name.text.utf8ByteSize ≤ 255
        · rw [look_proper hup hfits] at hlook
          cases hlook
          exact .inr ⟨directory, name,
            ⟨Nat.lt_of_not_le hshort, ⟨outer, by rw [hnames, List.concat_eq_append], hdir⟩, hup, hfits⟩, rfl⟩
        · rw [look, if_neg hup, if_pos (Nat.lt_of_not_le hfits)] at hlook
          cases hlook

theorem Reaches.mono {other : FileTree}
    (stay : ∀ location, tree.get? location = some .directory → other.get? location = some .directory)
    (h : tree.Reaches current path directory name) : other.Reaches current path directory name := by
  obtain ⟨outer, hnames, hdir⟩ := h.names
  exact ⟨h.short, ⟨outer, hnames, stroll_directory_mono stay hdir⟩, h.proper, h.fits⟩

/-- Where a walk finds nothing is where the path leads. -/
theorem spot_of_vacant (free : tree.LinkFree) {aim : Aim} {text : String}
    (h : tree.walk current aim path = .ok (.vacant directory text)) : spot current path = directory ++ [text] := by
  rcases walk_eq_ok free h with ⟨here, hfound⟩ | ⟨directory', name, hreaches, hfound⟩
  · cases hfound
  · obtain ⟨rfl, rfl, -⟩ := at?_eq_vacant hfound.symm
    exact hreaches.location

end reach

end GuestForge.FileTree
