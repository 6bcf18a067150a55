import GuestForge.Proofs.PublishDirectories
import GuestForge.Proofs.Refusals
set_option autoImplicit false

/-!
# Making directories where nothing is in the way

Directories that cannot be made are not there afterwards. In a tree without links those of a plain path can be made
exactly where each name on the way has a directory already or no entry at all. All of them are there then, and
everything else is as it was.
-/
namespace GuestForge
open HostM

namespace HostM
variable {host after : Host} {path : Path} {fault : Fault}

theorem makeDirectory_error (clean : ¬ path.HasNul) (h : Runs (makeDirectory path) host (.error fault) after)
    (location : Location) : after.tree.status after.location path ≠ .ok (location, .directory) := by
  intro hthere
  rcases makeDirectory_after h with rfl | ⟨directory, name, hwalk, hnone, hafter⟩
  · cases (h.unique (run_makeDirectory clean hthere)).1
  · rw [hafter] at h
    cases (h.unique (run_makeDirectory_vacant clean hwalk)).1

theorem makeDirectoriesFrom_error {anchor : Anchor} {names : List Name}
    (clean : ¬ (⟨anchor, names.reverse⟩ : Path).HasNul)
    (h : Runs (makeDirectoriesFrom anchor names) host (.error fault) after) (location : Location) :
    after.tree.status after.location ⟨anchor, names.reverse⟩ ≠ .ok (location, .directory) := by
  induction names generalizing host location with
  | nil => exact makeDirectory_error clean h location
  | cons name outer ih =>
    rcases runs_orElse.1 h with ⟨hmakes, -⟩ | ⟨error, middle, hmakes, hhandle⟩
    · exact makeDirectory_error clean hmakes location
    · split at hhandle
      · rcases runs_bind_error.1 hhandle with houter | ⟨_, last, -, hagain⟩
        · intro hthere
          obtain ⟨directory, habove⟩ := FileTree.walk_above (by simp) (FileTree.status_iff.1 hthere)
          have hclean := mt Path.hasNul_parent clean
          rw [Path.parent_reverse] at habove hclean
          exact ih hclean houter directory (FileTree.status_iff.2 habove)
        · exact makeDirectory_error clean hagain location
      · obtain ⟨-, rfl⟩ := runs_fail.1 hhandle
        exact makeDirectory_error clean hmakes location

theorem makeDirectories_error (clean : ¬ path.HasNul) (h : Runs (makeDirectories path) host (.error fault) after)
    (location : Location) : after.tree.status after.location path ≠ .ok (location, .directory) := by
  have hreverse : (⟨path.anchor, path.names.reverse.reverse⟩ : Path) = path := by rw [List.reverse_reverse]
  rw [← hreverse] at clean ⊢
  exact makeDirectoriesFrom_error clean h location

end HostM

namespace FileTree
variable {tree other : FileTree} {names : List Name}

/-- Each name on the way from the root has a directory already or can get one. -/
structure Clear (tree : FileTree) (names : List Name) : Prop where
  plain : ∀ name ∈ names, name.text ≠ ".."
  fits : ∀ name ∈ names, name.text.utf8ByteSize ≤ 255
  way : ∀ outer, outer <+: names → outer ≠ [] →
    tree.get? (outer.map Name.text) = none ∨ tree.get? (outer.map Name.text) = some .directory

theorem Clear.outer {outer : List Name} (h : tree.Clear names) (houter : outer <+: names) : tree.Clear outer :=
  ⟨fun name hname => h.plain name (houter.subset hname), fun name hname => h.fits name (houter.subset hname),
    fun inner hinner => h.way inner (hinner.trans houter)⟩

theorem Clear.at_way {location : Location} (h : tree.Clear names) (hne : location ≠ [])
    (way : location <+: names.map Name.text) :
    tree.get? location = none ∨ tree.get? location = some .directory := by
  obtain ⟨outer, houter, rfl⟩ := List.prefix_map_iff.1 way
  exact h.way outer houter fun hnil => hne (by rw [hnil]; rfl)

theorem Clear.grows {created : Location → Prop} (h : tree.Clear names) (grows : Grows created tree other) :
    other.Clear names := by
  refine ⟨h.plain, h.fits, fun outer houter hne => ?_⟩
  rcases grows (outer.map Name.text) with hsame | ⟨-, -, hdirectory⟩
  · rw [hsame]
    exact h.way outer houter hne
  · exact .inr hdirectory

theorem stroll_clear (h : tree.Clear names) :
    tree.stroll [] names = .ok (.entry (names.map Name.text) .directory) ∨
    (∃ directory text, tree.stroll [] names = .ok (.vacant directory text)) ∨
    tree.stroll [] names = .error .noEntry := by
  induction names using List.reverseRecOn with
  | nil => exact .inl rfl
  | append_singleton names name ih =>
    rw [stroll_concat]
    rcases ih (h.outer (List.prefix_append _ _)) with hdirectory | ⟨directory, text, hvacant⟩ | hmissing
    · have hlook : tree.look (names.map Name.text) name = .ok (tree.at? (names.map Name.text) name) :=
        look_proper (h.plain name (by simp)) (h.fits name (by simp))
      have hway := h.way (names ++ [name]) List.prefix_rfl (by simp)
      rw [List.map_append] at hway ⊢
      rw [hdirectory, enter, hlook, at?]
      rcases hway with hnone | hthere
      · rw [show tree.get? (names.map Name.text ++ [name.text]) = none from hnone]
        exact .inr (.inl ⟨_, _, rfl⟩)
      · rw [show tree.get? (names.map Name.text ++ [name.text]) = some .directory from hthere]
        exact .inl rfl
    · rw [hvacant]
      exact .inr (.inr rfl)
    · rw [hmissing]
      exact .inr (.inr rfl)

theorem stroll_onward {there : Location} (h : tree.stroll [] names = .ok (.entry there .directory)) (name : Name) :
    tree.stroll [] (names ++ [name]) ≠ .error .noEntry := by
  rw [stroll_concat, h, enter, look]
  split
  · simp
  · split
    · simp
    · split <;> simp

structure Laid (tree : FileTree) (names : List Name) : Prop where
  fits : ∀ name ∈ names, name.text.utf8ByteSize ≤ 255
  way : ∀ outer, outer <+: names → outer ≠ [] → tree.get? (outer.map Name.text) = some .directory

theorem stroll_plain {there : Location} (plain : ∀ name ∈ names, name.text ≠ "..")
    (h : tree.stroll [] names = .ok (.entry there .directory)) : there = names.map Name.text := by
  rw [stroll_directory h, foldl_step plain]
  rfl

theorem laid_of_stroll {there : Location} (plain : ∀ name ∈ names, name.text ≠ "..")
    (h : tree.stroll [] names = .ok (.entry there .directory)) : tree.Laid names := by
  induction names using List.reverseRecOn generalizing there with
  | nil =>
    refine ⟨fun name hname => absurd hname List.not_mem_nil, fun outer houter hne => ?_⟩
    exact absurd (List.prefix_nil.1 houter) hne
  | append_singleton names name ih =>
    rw [stroll_concat] at h
    obtain ⟨middle, hmiddle, hlook⟩ := enter_eq_ok h
    have hplain : ∀ name ∈ names, name.text ≠ ".." := fun other hother => plain other (List.mem_append_left _ hother)
    obtain ⟨hfits, hway⟩ := ih hplain hmiddle
    obtain ⟨-, hup | ⟨hlast, hdirectory⟩⟩ := look_directory hlook
    · exact absurd hup (plain name (by simp))
    · rw [stroll_plain hplain hmiddle] at hdirectory
      refine ⟨fun other hother => ?_, fun outer houter hne => ?_⟩
      · rcases List.mem_append.1 hother with hother | hother
        · exact hfits other hother
        · rw [List.mem_singleton.1 hother]
          exact hlast
      · rcases List.prefix_concat_iff.1 houter with rfl | houter
        · rw [List.map_append]
          exact hdirectory
        · exact hway outer houter hne

end FileTree

namespace HostM
variable {host after : Host} {names : List Name}

theorem walk_root (free : host.tree.LinkFree) (short : (⟨.root, names⟩ : Path).toString.utf8ByteSize < 4096)
    (aim : FileTree.Aim) : host.tree.walk host.location aim ⟨.root, names⟩ = host.tree.stroll [] names := by
  rw [FileTree.walk_eq_stroll free, if_neg (Nat.not_le.2 short)]
  rfl

theorem makeDirectory_clear (free : host.tree.LinkFree) (clean : ¬ (⟨.root, names⟩ : Path).HasNul)
    (short : (⟨.root, names⟩ : Path).toString.utf8ByteSize < 4096) (clear : host.tree.Clear names) :
    (∃ after, Runs (makeDirectory ⟨.root, names⟩) host (.ok ()) after) ∨
      host.tree.stroll [] names = .error .noEntry ∧
        Runs (makeDirectory ⟨.root, names⟩) host
          (.error (.system (refusal ⟨.root, names⟩ .noEntry))) host := by
  rcases FileTree.stroll_clear clear with hthere | ⟨directory, text, hvacant⟩ | hmissing
  · rw [← walk_root free short .follow] at hthere
    exact .inl ⟨host, run_makeDirectory clean (FileTree.status_iff.2 hthere)⟩
  · rw [← walk_root free short .stay] at hvacant
    exact .inl ⟨_, run_makeDirectory_vacant clean hvacant⟩
  · have hrefuses : host.tree.makeDirectory host.location ⟨.root, names⟩ = .error .noEntry := by
      unfold FileTree.makeDirectory
      rw [walk_root free short, hmissing]
      rfl
    refine .inr ⟨hmissing, runs_orElse.2 (.inr ⟨refusal ⟨.root, names⟩ .noEntry, host, ?_, ?_⟩)⟩
    · refine runs_bind_error.2 (.inl (runs_ask.2 ⟨?_, rfl⟩))
      unfold Path.HasNul at clean
      rw [if_neg clean, hrefuses]
      rfl
    · rw [if_pos rfl]
      exact runs_fail.2 ⟨rfl, rfl⟩

theorem run_makeDirectoriesFrom (free : host.tree.LinkFree) (clean : ¬ (⟨.root, names.reverse⟩ : Path).HasNul)
    (short : (⟨.root, names.reverse⟩ : Path).toString.utf8ByteSize < 4096) (clear : host.tree.Clear names.reverse) :
    ∃ after, Runs (makeDirectoriesFrom .root names) host (.ok ()) after := by
  induction names generalizing host with
  | nil =>
    rcases makeDirectory_clear free clean short clear with ⟨after, hmakes⟩ | ⟨hmissing, -⟩
    · exact ⟨after, hmakes⟩
    · cases hmissing
  | cons name outer ih =>
    have hnames : (name :: outer).reverse = outer.reverse ++ [name] := List.reverse_cons
    rcases makeDirectory_clear free clean short clear with ⟨after, hmakes⟩ | ⟨-, hrefuses⟩
    · exact ⟨after, runs_orElse_ok.2 (.inl hmakes)⟩
    · -- The directory above is missing, and can be made by the induction hypothesis.
      have hclean := mt Path.hasNul_parent clean
      have hshort := Nat.lt_of_le_of_lt (Path.utf8ByteSize_parent (by simp)) short
      rw [Path.parent_reverse] at hclean hshort
      obtain ⟨middle, houter⟩ := ih free hclean hshort (clear.outer (hnames ▸ List.prefix_append _ _))
      have hgrows := keeps_makeDirectoriesFrom extends_trans extends_refl .root outer
        (fun _ _ => extends_makeDirectory) _ _ _ houter
      have hfree := hgrows.2.linkFree free
      obtain ⟨-, location, hthere⟩ := makeDirectoriesFrom_there houter
      rw [FileTree.status_iff, walk_root hfree hshort] at hthere
      rcases makeDirectory_clear hfree clean short (clear.grows hgrows.2) with ⟨after, hmakes⟩ | ⟨hmissing, -⟩
      · refine ⟨after, runs_orElse_ok.2 (.inr ⟨_, host, hrefuses, ?_⟩)⟩
        rw [if_pos rfl]
        exact runs_bind_ok.2 ⟨(), middle, houter, hmakes⟩
      · rw [hnames] at hmissing
        exact absurd hmissing (FileTree.stroll_onward hthere name)

variable {path : Path}

/-- The directories of a plain path can be made where nothing is in the way. -/
theorem run_makeDirectories_clear (free : host.tree.LinkFree) (plain : path.Plain) (clean : ¬ path.HasNul)
    (short : path.toString.utf8ByteSize < 4096) (clear : host.tree.Clear path.names) :
    ∃ after, Runs (makeDirectories path) host (.ok ()) after := by
  obtain ⟨anchor, names⟩ := path
  obtain rfl : anchor = .root := plain.1
  have hnames : names.reverse.reverse = names := List.reverse_reverse names
  refine run_makeDirectoriesFrom free ?_ ?_ ?_
  · rwa [hnames]
  · rwa [hnames]
  · rwa [hnames]

def SameRoot (before after : Host) : Prop := after.tree.get? [] = before.tree.get? []

theorem sameRoot_makeDirectories : Keeps SameRoot (makeDirectories path) := by
  have htrans : ∀ s t u, SameRoot s t → SameRoot t u → SameRoot s u := fun _ _ _ h h' => h'.trans h
  have hrefl : ∀ s, SameRoot s s := fun _ => rfl
  refine keeps_makeDirectoriesFrom htrans hrefl _ _ fun _ _ => ?_
  intro before answer after h
  rcases makeDirectory_after h with rfl | ⟨directory, name, -, -, rfl⟩
  · rfl
  · rw [SameRoot, Host.withTree_tree, FileTree.get?_set, if_neg (by simp)]

section made
variable (free : host.tree.LinkFree) (plain : path.Plain) (h : Runs (makeDirectories path) host (.ok ()) after)
include free plain h

theorem laid_makeDirectories : after.tree.Laid path.names := by
  obtain ⟨directory, hstroll⟩ := (makeDirectories_enters free h).there
  rw [FileTree.start, if_neg (by rw [plain.1]; decide)] at hstroll
  exact FileTree.laid_of_stroll plain.2 hstroll

theorem get?_makeDirectories (location : Location) : after.tree.get? location =
    if location ≠ [] ∧ location <+: path.location then some .directory else host.tree.get? location := by
  split
  · rename_i hway
    obtain ⟨outer, houter, rfl⟩ := List.prefix_map_iff.1 hway.2
    exact (laid_makeDirectories free plain h).way outer houter fun hnil => hway.1 (by rw [hnil]; rfl)
  · rename_i hother
    by_cases hroot : location = []
    · rw [hroot]
      exact sameRoot_makeDirectories _ _ _ h
    · rcases (keeps_makeDirectories path _ _ _ h rfl free).2 location with hsame | ⟨hpasses, -⟩
      · exact hsame
      · exact absurd ⟨hroot, hpasses.isPrefix plain⟩ hother

/-- Nothing was in the way of directories that could be made. -/
theorem clear_of_makeDirectories : host.tree.Clear path.names := by
  obtain ⟨hfits, hway⟩ := laid_makeDirectories free plain h
  refine ⟨plain.2, hfits, fun outer houter hne => ?_⟩
  rcases (extends_makeDirectories path _ _ _ h).2 (outer.map Name.text) with hsame | ⟨-, hnone, -⟩
  · rw [← hsame]
    exact .inr (hway outer houter hne)
  · exact .inl hnone

end made

end HostM

end GuestForge
