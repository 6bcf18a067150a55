import GuestForge.Proofs.HostActions
set_option autoImplicit false

/-!
# Making directories on a host

However making directories ends, all that it changes is that directories are added; if it succeeds the path leads to one,
and where the path leads to one already it changes nothing. Without links the new directories are on the way to the path.
-/
namespace GuestForge

namespace FileTree

/-- Some of the locations in question got a directory where there was nothing; all else stayed. -/
def Grows (created : Location → Prop) (before after : FileTree) : Prop :=
  ∀ location, after.get? location = before.get? location ∨
    created location ∧ before.get? location = none ∧ after.get? location = some .directory

/-- Where the outer parts of a path lead, and the path itself. -/
def Passes (current : Location) (path : Path) (location : Location) : Prop :=
  ∃ names, names <+: path.names ∧ location = spot current ⟨path.anchor, names⟩

variable {created : Location → Prop} {before middle after : FileTree}

theorem Grows.refl (tree : FileTree) : Grows created tree tree := fun _ => .inl rfl

theorem Grows.trans (h : Grows created before middle) (h' : Grows created middle after) :
    Grows created before after := by
  intro location
  rcases h' location with hsame | ⟨hcreated, hnone, hdirectory⟩
  · rw [hsame]
    exact h location
  · rcases h location with hfirst | ⟨-, -, hmade⟩
    · exact .inr ⟨hcreated, hfirst ▸ hnone, hdirectory⟩
    · rw [hmade] at hnone
      cases hnone

theorem Grows.mono {wider : Location → Prop} (h : Grows created before after)
    (hw : ∀ location, created location → wider location) : Grows wider before after :=
  fun location => (h location).imp_right fun ⟨hc, hrest⟩ => ⟨hw location hc, hrest⟩

theorem Grows.linkFree (h : Grows created before after) (free : before.LinkFree) : after.LinkFree := by
  intro location target hlink
  rcases h location with hsame | ⟨-, -, hmade⟩
  · exact free location target (hsame ▸ hlink)
  · rw [hmade] at hlink
    cases hlink

theorem Grows.stays (h : Grows created before after) {location : Location} {entry : Entry}
    (there : before.get? location = some entry) : after.get? location = some entry := by
  rcases h location with hsame | ⟨-, hnone, -⟩
  · rw [hsame, there]
  · rw [there] at hnone
    cases hnone

theorem Grows.read (h : Grows created before after) (free : before.LinkFree) {current : Location} {path : Path}
    {bytes : List UInt8} (reads : before.read current path = .ok bytes) : after.read current path = .ok bytes := by
  obtain ⟨directory, name, hreaches, hfile⟩ := read_eq_ok free reads
  exact (hreaches.mono fun _ => h.stays).read (h.linkFree free) (h.stays hfile)

theorem grows_set {location : Location} (hcreated : created location) (hnone : before.get? location = none) :
    Grows created before (before.set location .directory) := by
  intro other
  rw [get?_set]
  split
  · subst_vars
    exact .inr ⟨hcreated, hnone, rfl⟩
  · exact .inl rfl

end FileTree

def Host.Extends (before after : Host) : Prop :=
  after = before.withTree after.tree ∧ FileTree.Grows (fun _ => True) before.tree after.tree

def Host.Grows (current : Location) (created : Location → Prop) (before after : Host) : Prop :=
  before.location = current → before.tree.LinkFree →
    after = before.withTree after.tree ∧ FileTree.Grows created before.tree after.tree

namespace HostM
variable {current : Location} {created : Location → Prop} {host after : Host} {path : Path}

theorem extends_refl (s : Host) : Host.Extends s s := ⟨rfl, .refl _⟩

theorem extends_trans (s t u : Host) (h : Host.Extends s t) (h' : Host.Extends t u) : Host.Extends s u := by
  obtain ⟨ht, hst⟩ := h
  obtain ⟨hu, htu⟩ := h'
  refine ⟨?_, hst.trans htu⟩
  rw [hu, ht]
  rfl

theorem grows_refl (s : Host) : Host.Grows current created s s := fun _ _ => ⟨rfl, .refl _⟩

theorem grows_trans (s t u : Host) (h : Host.Grows current created s t) (h' : Host.Grows current created t u) :
    Host.Grows current created s u := by
  intro hlocation free
  obtain ⟨ht, hst⟩ := h hlocation free
  have htlocation : t.location = current := by
    rw [ht]
    exact hlocation
  obtain ⟨hu, htu⟩ := h' htlocation (hst.linkFree free)
  refine ⟨?_, hst.trans htu⟩
  rw [hu, ht]
  rfl

theorem grows_of_quiet {α : Type} {act : HostM α} (h : Quiet act) : Keeps (Host.Grows current created) act := by
  intro before answer after hruns
  rw [h _ _ _ hruns]
  exact grows_refl before

theorem makeDirectory_after {answer : Except Fault Unit} (h : Runs (makeDirectory path) host answer after) :
    after = host ∨ ∃ directory name, host.tree.walk host.location .stay path = .ok (.vacant directory name) ∧
      host.tree.get? (directory ++ [name]) = none ∧
      after = host.withTree (host.tree.set (directory ++ [name]) .directory) := by
  have hmakes : ∀ {answer middle}, Runs (do setTree (← ask path FileTree.makeDirectory)) host answer middle →
      middle = host ∨ ∃ directory name, host.tree.walk host.location .stay path = .ok (.vacant directory name) ∧
        host.tree.get? (directory ++ [name]) = none ∧
        middle = host.withTree (host.tree.set (directory ++ [name]) .directory) := by
    intro answer middle hruns
    rcases runs_bind.1 hruns with ⟨tree, _, hask, hset⟩ | ⟨fault, hask, -⟩
    · obtain ⟨-, hmake, rfl⟩ := runs_ask_ok.1 hask
      obtain ⟨directory, name, hwalk, hnone, rfl⟩ := FileTree.makeDirectory_vacant hmake
      exact .inr ⟨directory, name, hwalk, hnone, (runs_setTree.1 hset).2⟩
    · exact .inl (quiet_ask _ _ _ _ hask)
  rcases runs_orElse.1 h with ⟨hruns, -⟩ | ⟨error, middle, hruns, hhandle⟩
  · exact hmakes hruns
  · have hquiet : Quiet (if error = refusal path .noEntry then fail (.system error) else do
        if ← isDirectory path then pure () else fail (.system error)) := by
      refine Keeps.ite (Quiet.fail _) (Quiet.bind quiet_isDirectory fun found => ?_)
      exact Keeps.ite (Quiet.pure _) (Quiet.fail _)
    rw [hquiet _ _ _ hhandle]
    exact hmakes hruns

theorem keeps_makeDirectoriesFrom {related : Host → Host → Prop}
    (trans : ∀ s t u, related s t → related t u → related s u) (refl : ∀ s, related s s) (anchor : Anchor)
    (names : List Name) (each : ∀ outer, outer <+: names.reverse → Keeps related (makeDirectory ⟨anchor, outer⟩)) :
    Keeps related (makeDirectoriesFrom anchor names) := by
  induction names with
  | nil => exact each [] List.prefix_rfl
  | cons name outer ih =>
    have hself := each (name :: outer).reverse List.prefix_rfl
    refine keeps_orElse trans refl hself fun error => Keeps.ite ?_ (Keeps.throw refl _)
    refine Keeps.bind trans (ih fun names hnames => each names ?_) fun _ => hself
    rw [List.reverse_cons]
    exact hnames.trans (List.prefix_append _ _)

theorem extends_makeDirectory : Keeps Host.Extends (makeDirectory path) := by
  intro before answer after h
  rcases makeDirectory_after h with rfl | ⟨directory, name, -, hnone, rfl⟩
  · exact extends_refl after
  · exact ⟨rfl, FileTree.grows_set trivial hnone⟩

/-- Making directories adds directories and changes nothing else, links or none. -/
theorem extends_makeDirectories (path : Path) : Keeps Host.Extends (makeDirectories path) :=
  keeps_makeDirectoriesFrom extends_trans extends_refl _ _ fun _ _ => extends_makeDirectory

theorem grows_makeDirectory (hcreated : created (FileTree.spot current path)) :
    Keeps (Host.Grows current created) (makeDirectory path) := by
  intro before answer after h hlocation free
  rcases makeDirectory_after h with rfl | ⟨directory, name, hwalk, hnone, rfl⟩
  · exact ⟨rfl, .refl _⟩
  · refine ⟨rfl, FileTree.grows_set ?_ hnone⟩
    rwa [← FileTree.spot_of_vacant free hwalk, hlocation]

/-- Without links, the directories made are those on the way to the path. -/
theorem keeps_makeDirectories (path : Path) :
    Keeps (Host.Grows current (FileTree.Passes current path)) (makeDirectories path) := by
  apply keeps_makeDirectoriesFrom grows_trans grows_refl
  intro outer houter
  rw [List.reverse_reverse] at houter
  exact grows_makeDirectory ⟨outer, houter, rfl⟩

theorem makeDirectory_there (h : Runs (makeDirectory path) host (.ok ()) after) :
    '\x00' ∉ path.toString.toList ∧
      ∃ location, after.tree.status after.location path = .ok (location, .directory) := by
  rcases runs_orElse_ok.1 h with hmakes | ⟨error, middle, hask, hhandle⟩
  · obtain ⟨tree, _, hask, hset⟩ := runs_bind_ok.1 hmakes
    obtain ⟨hclean, hmake, rfl⟩ := runs_ask_ok.1 hask
    obtain ⟨-, rfl⟩ := runs_setTree.1 hset
    obtain ⟨directory, name, hwalk, hnone, rfl⟩ := FileTree.makeDirectory_vacant hmake
    refine ⟨hclean, _, FileTree.status_turn hwalk ?_ (.opened (.vacant directory name) ?_ (by simp))⟩
    · exact FileTree.stays_set (.vacant directory name) (FileTree.walk_iff.1 hwalk).2.stands _
    · rw [Host.withTree_tree, FileTree.get?_set, if_pos rfl]
  · have hmiddle : middle = host := by
      rcases runs_bind_error.1 hask with hask | ⟨tree, _, -, hset⟩
      · exact quiet_ask _ _ _ _ hask
      · cases (runs_setTree.1 hset).1
    subst hmiddle
    split at hhandle
    · cases (runs_fail.1 hhandle).1
    · obtain ⟨found, last, hfound, hend⟩ := runs_bind_ok.1 hhandle
      obtain ⟨entry, _, hentry, hpure⟩ := runs_bind_ok.1 hfound
      obtain rfl := quiet_entry _ _ _ hentry
      obtain ⟨hanswer, rfl⟩ := runs_pure.1 hpure
      split at hend
      · obtain ⟨-, rfl⟩ := runs_pure.1 hend
        rename_i hyes
        rw [of_decide_eq_true ((Except.ok.inj hanswer).symm.trans hyes)] at hentry
        exact status_of_entry hentry
      · cases (runs_fail.1 hend).1

theorem makeDirectoriesFrom_there {anchor : Anchor} {names : List Name}
    (h : Runs (makeDirectoriesFrom anchor names) host (.ok ()) after) :
    '\x00' ∉ (⟨anchor, names.reverse⟩ : Path).toString.toList ∧
      ∃ location, after.tree.status after.location ⟨anchor, names.reverse⟩ = .ok (location, .directory) := by
  cases names with
  | nil => exact makeDirectory_there h
  | cons name outer =>
    rcases runs_orElse_ok.1 h with hmakes | ⟨error, middle, hfails, hhandle⟩
    · exact makeDirectory_there hmakes
    · split at hhandle
      · obtain ⟨_, last, houter, hmakes⟩ := runs_bind_ok.1 hhandle
        exact makeDirectory_there hmakes
      · cases (runs_fail.1 hhandle).1

theorem makeDirectories_there (h : Runs (makeDirectories path) host (.ok ()) after) :
    '\x00' ∉ path.toString.toList ∧
      ∃ location, after.tree.status after.location path = .ok (location, .directory) := by
  have hthere := makeDirectoriesFrom_there h
  rwa [List.reverse_reverse] at hthere

theorem run_makeDirectory {location : Location} (clean : '\x00' ∉ path.toString.toList)
    (h : host.tree.status host.location path = .ok (location, .directory)) :
    Runs (makeDirectory path) host (.ok ()) host := by
  obtain ⟨last, entry, hwalk⟩ := FileTree.walk_directory (FileTree.status_iff.1 h)
  have hexists : host.tree.makeDirectory host.location path = .error .exists := by
    unfold FileTree.makeDirectory
    rw [hwalk]
    rfl
  refine runs_orElse_ok.2 (.inr ⟨refusal path .exists, host, runs_bind_error.2 (.inl (runs_ask.2 ⟨?_, rfl⟩)), ?_⟩)
  · rw [if_neg clean, hexists]
    rfl
  · have hother : ¬ refusal path .exists = refusal path .noEntry := by simp [refusal, ErrorCode.number]
    rw [if_neg hother]
    refine runs_bind_ok.2 ⟨true, host, runs_bind_ok.2 ⟨_, host, run_entry_of_status clean h, ?_⟩, ?_⟩
    · exact runs_pure.2 ⟨rfl, rfl⟩
    · exact runs_pure.2 ⟨rfl, rfl⟩

theorem run_makeDirectory_vacant {directory : Location} {name : String} (clean : '\x00' ∉ path.toString.toList)
    (h : host.tree.walk host.location .stay path = .ok (.vacant directory name)) :
    Runs (makeDirectory path) host (.ok ()) (host.withTree (host.tree.set (directory ++ [name]) .directory)) := by
  have hmakes : host.tree.makeDirectory host.location path = .ok (host.tree.set (directory ++ [name]) .directory) := by
    unfold FileTree.makeDirectory
    rw [h]
    rfl
  exact runs_orElse_ok.2 (.inl (runs_bind_ok.2 ⟨_, host, runs_ask_ok.2 ⟨clean, hmakes, rfl⟩, runs_setTree.2 ⟨rfl, rfl⟩⟩))

theorem run_makeDirectories_there {location : Location} (clean : '\x00' ∉ path.toString.toList)
    (h : host.tree.status host.location path = .ok (location, .directory)) :
    Runs (makeDirectories path) host (.ok ()) host := by
  have hmakes := run_makeDirectory clean h
  obtain ⟨anchor, names⟩ := path
  unfold makeDirectories
  cases hnames : names.reverse with
  | nil =>
    rw [List.reverse_eq_nil_iff] at hnames
    rw [hnames] at hmakes
    exact hmakes
  | cons name outer =>
    rw [List.reverse_eq_iff] at hnames
    rw [hnames] at hmakes
    exact runs_orElse_ok.2 (.inl hmakes)

end HostM

structure Host.Enters (host : Host) (path : Path) : Prop where
  clean : '\x00' ∉ path.toString.toList
  short : path.toString.utf8ByteSize < 4096
  there : ∃ directory, host.tree.stroll (FileTree.start host.location path) path.names =
    .ok (.entry directory .directory)

namespace Host.Enters
variable {host other : Host} {path : Path}

theorem mono (h : host.Enters path) (location : other.location = host.location)
    (stay : ∀ location, host.tree.get? location = some .directory → other.tree.get? location = some .directory) :
    other.Enters path := by
  obtain ⟨directory, hstroll⟩ := h.there
  refine ⟨h.clean, h.short, directory, ?_⟩
  rw [location]
  exact FileTree.stroll_directory_mono stay hstroll

theorem walk (free : host.tree.LinkFree) (h : host.Enters path) (aim : FileTree.Aim) :
    ∃ directory, host.tree.walk host.location aim path = .ok (.entry directory .directory) := by
  obtain ⟨directory, hstroll⟩ := h.there
  refine ⟨directory, ?_⟩
  rw [FileTree.walk_eq_stroll free, if_neg (Nat.not_le.2 h.short)]
  exact hstroll

theorem of_status (free : host.tree.LinkFree) (clean : '\x00' ∉ path.toString.toList) {directory : Location}
    (h : host.tree.status host.location path = .ok (directory, .directory)) : host.Enters path := by
  unfold FileTree.status at h
  rw [FileTree.walk_eq_stroll free] at h
  split at h
  · cases h
  · rename_i hshort
    refine ⟨clean, Nat.lt_of_not_le hshort, ?_⟩
    cases hstroll : host.tree.stroll (FileTree.start host.location path) path.names with
    | error code =>
      rw [hstroll] at h
      cases h
    | ok found =>
      rw [hstroll] at h
      cases found with
      | vacant here text => cases h
      | entry here entry =>
        cases h
        exact ⟨directory, rfl⟩

end Host.Enters

namespace HostM
variable {host after : Host} {path : Path}

theorem makeDirectories_enters (free : host.tree.LinkFree) (h : Runs (makeDirectories path) host (.ok ()) after) :
    after.Enters path := by
  obtain ⟨hclean, location, hstatus⟩ := makeDirectories_there h
  exact .of_status ((extends_makeDirectories path _ _ _ h).2.linkFree free) hclean hstatus

theorem run_makeDirectories (free : host.tree.LinkFree) (h : host.Enters path) :
    Runs (makeDirectories path) host (.ok ()) host := by
  obtain ⟨directory, hwalk⟩ := h.walk free .follow
  exact run_makeDirectories_there h.clean (FileTree.status_iff.2 hwalk)

end HostM

def Host.Spares (region : Location → Prop) (before after : Host) : Prop :=
  before.tree.LinkFree →
    after.tree.LinkFree ∧ ∀ location, region location → after.tree.get? location = before.tree.get? location

namespace HostM
variable {region : Location → Prop}

theorem spares_trans (s t u : Host) (h : Host.Spares region s t) (h' : Host.Spares region t u) :
    Host.Spares region s u := by
  intro free
  obtain ⟨hfree, hsame⟩ := h free
  obtain ⟨hfree', hsame'⟩ := h' hfree
  exact ⟨hfree', fun location hlocation => (hsame' location hlocation).trans (hsame location hlocation)⟩

theorem spares_refl (s : Host) : Host.Spares region s s := fun free => ⟨free, fun _ _ => rfl⟩

theorem spares_makeDirectories {path : Path}
    (outside : ∀ current location, FileTree.Passes current path location → ¬ region location) :
    Keeps (Host.Spares region) (makeDirectories path) := by
  intro before answer after h free
  obtain ⟨-, hgrows⟩ := keeps_makeDirectories path _ _ _ h rfl free
  refine ⟨hgrows.linkFree free, fun location hregion => ?_⟩
  rcases hgrows location with hsame | ⟨hpasses, -⟩
  · exact hsame
  · exact absurd hregion (outside _ location hpasses)

theorem spares_writeFile {path : Path} (bytes : List UInt8)
    (outside : ∀ current, ¬ region (FileTree.spot current path)) :
    Keeps (Host.Spares region) (writeFile path bytes) := by
  intro before answer after h free
  cases answer with
  | error fault =>
    rw [writeFile_error h]
    exact ⟨free, fun _ _ => rfl⟩
  | ok _ =>
    obtain ⟨directory, name, hreaches, -, rfl⟩ := writeFile_ok free h
    refine ⟨?_, fun location hregion => ?_⟩
    · intro location target
      rw [Host.withTree_tree, FileTree.get?_set]
      split
      · simp
      · exact free location target
    · rw [Host.withTree_tree, FileTree.get?_set, if_neg]
      rintro rfl
      rw [← hreaches.reaches.location] at hregion
      exact outside before.location hregion

end HostM

end GuestForge
