import GuestForge.Proofs.EffectBoundaries
import GuestForge.Proofs.Landings
set_option autoImplicit false

/-!
# Identifier files that are links

Files are written through links, but a link is taken away itself, and only if it leads somewhere. So a stale link to
nothing stays, and a file that was written at the place of a stale one goes with it. In all other ways the three
identifier files can be links to each other or elsewhere, and still be as they should in the end.
-/
namespace GuestForge
open HostM Publish

structure Filing where
  guest : BuiltGuest
  path : Path
  directory : Location
  current : Location

namespace Filing
variable (filing : Filing)

def own : Path := filing.path.beside (.id filing.guest.imageId.context)

def other : Path := filing.path.beside (.id filing.guest.imageId.context.other)

def legacy : Path := filing.path.beside .legacy

def otherPlace : Location := siblingAt filing.directory filing.path.stem (.id filing.guest.imageId.context.other)

def legacyPlace : Location := siblingAt filing.directory filing.path.stem .legacy

def kept (tree : FileTree) : FileTree :=
  if filing.guest.legacyId = Digest.zero then tree.erase filing.legacyPlace else tree

def swept (tree : FileTree) : FileTree := (filing.kept tree).erase filing.otherPlace

/-- The files that apply can be read as they should, and in place of the others there is nothing, not even a link. -/
structure Resolved (tree : FileTree) : Prop where
  own : tree.read filing.current filing.own = .ok filing.guest.imageId.digest.bytes
  other : tree.get? filing.otherPlace = none
  legacy : filing.guest.legacyId ≠ Digest.zero →
    tree.read filing.current filing.legacy = .ok filing.guest.legacyId.bytes
  stale : filing.guest.legacyId = Digest.zero → tree.get? filing.legacyPlace = none

/-- Links that do no harm. With the stale files gone, those that apply land in other places, and in the same one only
with the same bytes. Stale links lead somewhere when it is their turn to go, if only to what was just written. -/
structure Untangled (tree : FileTree) : Prop where
  own : ∃ place, (filing.swept tree).Lands filing.current filing.own place ∧ place ≠ filing.otherPlace ∧
    (filing.guest.legacyId = Digest.zero → place ≠ filing.legacyPlace)
  legacy : filing.guest.legacyId ≠ Digest.zero →
    ∃ place, (filing.swept tree).Lands filing.current filing.legacy place ∧ place ≠ filing.otherPlace ∧
      ((filing.swept tree).Lands filing.current filing.own place →
        filing.guest.imageId.digest.bytes = filing.guest.legacyId.bytes)
  stale : filing.guest.legacyId = Digest.zero → ∀ target, tree.get? filing.legacyPlace = some (.link target) →
    ∃ found, tree.status filing.current filing.legacy = .ok found
  other : ∀ target, tree.get? filing.otherPlace = some (.link target) →
    (∃ there, (filing.kept tree).status filing.current filing.other = .ok (there, .directory)) ∨
    ∃ place, (filing.kept tree).Lands filing.current filing.other place ∧
      ((filing.kept tree).get? place ≠ none ∨ (filing.kept tree).Lands filing.current filing.own place ∨
        filing.guest.legacyId ≠ Digest.zero ∧ (filing.kept tree).Lands filing.current filing.legacy place)

end Filing

/-- What is at a place is taken away, unless it is a link and a path to it leads nowhere. -/
structure FileTree.Removes (current : Location) (path : Path) (place : Location) (before after : FileTree) : Prop where
  change : after = before ∨ after = before.erase place
  gone_iff : after.get? place = none ↔
    ∀ target, before.get? place = some (.link target) → ∃ found, before.status current path = .ok found

theorem FileTree.Removes.erased {current : Location} {path : Path} {place : Location} {before after : FileTree}
    (h : FileTree.Removes current path place before after) (gone : after.get? place = none) :
    after = before.erase place := by
  rcases h.change with rfl | herased
  · exact (FileTree.erase_eq_self gone).symm
  · exact herased

namespace Filing

structure Filed (filing : Filing) (before first second after : FileTree) : Prop where
  written : filing.guest.legacyId ≠ Digest.zero → ∃ place, before.Lands filing.current filing.legacy place ∧
    first = before.set place (.file filing.guest.legacyId.bytes)
  removed : filing.guest.legacyId = Digest.zero →
    FileTree.Removes filing.current filing.legacy filing.legacyPlace before first
  own : ∃ place, first.Lands filing.current filing.own place ∧
    second = first.set place (.file filing.guest.imageId.digest.bytes)
  other : FileTree.Removes filing.current filing.other filing.otherPlace second after

variable {filing : Filing} {before first second after : FileTree}

theorem otherPlace_ne (filing : Filing) : filing.otherPlace ≠ filing.legacyPlace := by
  intro hsame
  cases (siblingAt_inj.1 hsame).2.2

theorem Filed.kept_alike (h : Filed filing before first second after)
    (stale : filing.guest.legacyId = Digest.zero → first.get? filing.legacyPlace = none) :
    ∃ place, FileTree.Alike place (filing.kept before) first := by
  unfold kept
  split
  · rename_i hzero
    rw [(h.removed hzero).erased (stale hzero)]
    exact ⟨filing.legacyPlace, .refl (FileTree.leaf_of_none (by rw [FileTree.get?_erase, if_pos rfl]))⟩
  · rename_i happlies
    obtain ⟨place, hlands, rfl⟩ := h.written happlies
    exact ⟨place, FileTree.alike_set hlands.leaf _⟩

theorem Filed.link_iff (h : Filed filing before first second after) {target : String} :
    second.get? filing.otherPlace = some (.link target) ↔ before.get? filing.otherPlace = some (.link target) := by
  obtain ⟨place, hlands, rfl⟩ := h.own
  rw [(FileTree.alike_set hlands.leaf _).link_iff]
  by_cases hzero : filing.guest.legacyId = Digest.zero
  · rcases (h.removed hzero).change with rfl | rfl
    · rfl
    · rw [FileTree.get?_erase, if_neg filing.otherPlace_ne.symm]
  · obtain ⟨_, hlegacy, rfl⟩ := h.written hzero
    exact (FileTree.alike_set hlegacy.leaf _).link_iff

section kept
variable (h : Filed filing before first second after)
  (stale : filing.guest.legacyId = Digest.zero → first.get? filing.legacyPlace = none)
include h stale

/-- Paths land after the writing where they land without the stale legacy file. -/
theorem Filed.lands_kept_iff {path : Path} {place : Location} :
    second.Lands filing.current path place ↔ (filing.kept before).Lands filing.current path place := by
  obtain ⟨_, halike⟩ := h.kept_alike stale
  obtain ⟨_, hlands, rfl⟩ := h.own
  exact (FileTree.alike_set hlands.leaf _).lands_iff.trans halike.lands_iff

theorem Filed.directory_kept_iff {path : Path} {there : Location} :
    second.status filing.current path = .ok (there, .directory) ↔
      (filing.kept before).status filing.current path = .ok (there, .directory) := by
  obtain ⟨_, halike⟩ := h.kept_alike stale
  obtain ⟨_, hlands, rfl⟩ := h.own
  have hset := FileTree.alike_set hlands.leaf filing.guest.imageId.digest.bytes
  exact ⟨fun hthere => halike.symm.directory (hset.symm.directory hthere),
    fun hthere => hset.directory (halike.directory hthere)⟩

theorem Filed.lands_swept_iff (gone : after.get? filing.otherPlace = none) {path : Path} {place : Location} :
    after.Lands filing.current path place ↔ (filing.swept before).Lands filing.current path place := by
  obtain ⟨_, halike⟩ := h.kept_alike stale
  obtain ⟨_, hlands, hsecond⟩ := h.own
  rw [h.other.erased gone, hsecond]
  exact ((FileTree.alike_set hlands.leaf _).erase _).lands_iff.trans (halike.erase _).lands_iff

theorem Filed.own_written {place : Location} (lands : (filing.kept before).Lands filing.current filing.own place) :
    second.get? place = some (.file filing.guest.imageId.digest.bytes) := by
  obtain ⟨_, halike⟩ := h.kept_alike stale
  obtain ⟨_, hlands, rfl⟩ := h.own
  rw [hlands.unique (halike.lands_iff.2 lands), FileTree.get?_set, if_pos rfl]

theorem Filed.legacy_written (applies : filing.guest.legacyId ≠ Digest.zero) {place : Location}
    (lands : (filing.kept before).Lands filing.current filing.legacy place) :
    second.get? place = some (.file filing.guest.legacyId.bytes) ∨
      (filing.kept before).Lands filing.current filing.own place := by
  obtain ⟨_, halike⟩ := h.kept_alike stale
  obtain ⟨ownPlace, hlands, rfl⟩ := h.own
  by_cases hsame : ownPlace = place
  · exact .inr (halike.lands_iff.1 (hsame ▸ hlands))
  · left
    obtain ⟨legacyPlace, hlegacy, rfl⟩ := h.written applies
    rw [kept, if_neg applies] at lands
    obtain rfl := hlegacy.unique lands
    rw [FileTree.get?_set, if_neg hsame, FileTree.get?_set, if_pos rfl]

theorem Filed.some_iff {place : Location} : second.get? place ≠ none ↔
    (filing.kept before).get? place ≠ none ∨ (filing.kept before).Lands filing.current filing.own place ∨
      filing.guest.legacyId ≠ Digest.zero ∧ (filing.kept before).Lands filing.current filing.legacy place := by
  obtain ⟨_, halike⟩ := h.kept_alike stale
  obtain ⟨_, hlands, rfl⟩ := h.own
  rw [hlands.set_ne_none_iff, halike.lands_iff]
  by_cases hzero : filing.guest.legacyId = Digest.zero
  · rw [(h.removed hzero).erased (stale hzero), kept, if_pos hzero]
    simp [hzero]
  · obtain ⟨_, hlegacy, rfl⟩ := h.written hzero
    rw [hlegacy.set_ne_none_iff, kept, if_neg hzero, and_iff_right hzero, or_right_comm, or_assoc]

end kept

/-- Files that are as they should be were not tangled up. -/
theorem Filed.untangled (h : Filed filing before first second after) (resolved : filing.Resolved after) :
    filing.Untangled before := by
  have hgone : ∀ {place bytes}, after.get? place = some (.file bytes) → place ≠ filing.otherPlace ∧
      (filing.guest.legacyId = Digest.zero → place ≠ filing.legacyPlace) := by
    intro place bytes hfile
    constructor
    · rintro rfl
      rw [resolved.other] at hfile
      cases hfile
    · rintro hzero rfl
      rw [resolved.stale hzero] at hfile
      cases hfile
  have hstale : filing.guest.legacyId = Digest.zero → first.get? filing.legacyPlace = none := by
    intro hzero
    have hafter := resolved.stale hzero
    rw [h.other.erased resolved.other, FileTree.get?_erase, if_neg filing.otherPlace_ne] at hafter
    obtain ⟨place, hlands, rfl⟩ := h.own
    by_contra hfirst
    exact hlands.set_ne_none_iff.2 (.inl hfirst) hafter
  obtain ⟨place, hlands, hfile⟩ := FileTree.read_iff_lands.1 resolved.own
  refine ⟨⟨place, (h.lands_swept_iff hstale resolved.other).1 hlands, hgone hfile⟩, ?_, ?_, ?_⟩
  · intro happlies
    obtain ⟨legacyPlace, hlegacy, hlegacyFile⟩ := FileTree.read_iff_lands.1 (resolved.legacy happlies)
    refine ⟨legacyPlace, (h.lands_swept_iff hstale resolved.other).1 hlegacy, (hgone hlegacyFile).1, fun hown => ?_⟩
    obtain rfl := hlands.unique ((h.lands_swept_iff hstale resolved.other).2 hown)
    rw [hfile] at hlegacyFile
    exact Entry.file.inj (Option.some.inj hlegacyFile)
  · exact fun hzero => (h.removed hzero).gone_iff.1 (hstale hzero)
  · intro target hlink
    rcases FileTree.status_iff_lands.1 (h.other.gone_iff.1 resolved.other target (h.link_iff.2 hlink)) with
      ⟨there, hthere⟩ | ⟨place, hother, hsome⟩
    · exact .inl ⟨there, (h.directory_kept_iff hstale).1 hthere⟩
    · exact .inr ⟨place, (h.lands_kept_iff hstale).1 hother, (h.some_iff hstale).1 hsome⟩

/-- Files that are not tangled up end as they should. -/
theorem Filed.resolved (h : Filed filing before first second after) (untangled : filing.Untangled before) :
    filing.Resolved after := by
  have hstale : filing.guest.legacyId = Digest.zero → first.get? filing.legacyPlace = none :=
    fun hzero => (h.removed hzero).gone_iff.2 (untangled.stale hzero)
  have hgone : after.get? filing.otherPlace = none := by
    refine h.other.gone_iff.2 fun target hlink => FileTree.status_iff_lands.2 ?_
    rcases untangled.other target (h.link_iff.1 hlink) with ⟨there, hthere⟩ | ⟨place, hother, hsome⟩
    · exact .inl ⟨there, (h.directory_kept_iff hstale).2 hthere⟩
    · exact .inr ⟨place, (h.lands_kept_iff hstale).2 hother, (h.some_iff hstale).2 hsome⟩
  have hkept : ∀ {path place}, (filing.swept before).Lands filing.current path place → place ≠ filing.otherPlace →
      (filing.kept before).Lands filing.current path place ∧ after.get? place = second.get? place := by
    intro path place hlands hne
    refine ⟨hlands.of_erase.resolve_left hne, ?_⟩
    rw [h.other.erased hgone, FileTree.get?_erase, if_neg hne.symm]
  obtain ⟨place, hlands, hother, hlegacyPlace⟩ := untangled.own
  obtain ⟨hown, hsame⟩ := hkept hlands hother
  refine ⟨?_, hgone, fun happlies => ?_, fun hzero => ?_⟩
  · exact FileTree.read_iff_lands.2 ⟨place, (h.lands_swept_iff hstale hgone).2 hlands,
      hsame.trans (h.own_written hstale hown)⟩
  · obtain ⟨legacyPlace, hlegacy, hne, hequal⟩ := untangled.legacy happlies
    obtain ⟨hlegacyKept, hsameLegacy⟩ := hkept hlegacy hne
    refine FileTree.read_iff_lands.2 ⟨legacyPlace, (h.lands_swept_iff hstale hgone).2 hlegacy, ?_⟩
    rw [hsameLegacy]
    rcases h.legacy_written hstale happlies hlegacyKept with hfile | hoverwritten
    · exact hfile
    · obtain rfl := hown.unique hoverwritten
      rw [h.own_written hstale hown, hequal hlands]
  · have hfirst := hstale hzero
    rw [h.other.erased hgone, FileTree.get?_erase, if_neg filing.otherPlace_ne]
    obtain ⟨_, halike⟩ := h.kept_alike hstale
    obtain ⟨ownPlace, hownFirst, rfl⟩ := h.own
    obtain rfl := hownFirst.unique (halike.lands_iff.2 hown)
    rw [FileTree.get?_set, if_neg (hlegacyPlace hzero), hfirst]

theorem Filed.left_link (h : Filed filing before first second after) {entry : Entry}
    (left : after.get? filing.otherPlace = some entry) :
    before.get? filing.otherPlace = some entry ∧ ∃ target, entry = .link target := by
  have hleft : after.get? filing.otherPlace ≠ none := by simp [left]
  have hseen := mt h.other.gone_iff.2 hleft
  push Not at hseen
  obtain ⟨target, hlink, -⟩ := hseen
  rcases h.other.change with rfl | rfl
  · cases hlink.symm.trans left
    exact ⟨h.link_iff.1 hlink, target, rfl⟩
  · exact absurd (by rw [FileTree.get?_erase, if_pos rfl]) hleft

end Filing

section hosts
variable {host after : Host} {path : Path} {directory : Location} {guest : BuiltGuest} {sibling : Sibling}

theorem pathExists_iff {found : Bool} (clean : ¬ path.HasNul) (h : Runs (pathExists path) host (.ok found) after) :
    found = true ↔ ∃ there, host.tree.status host.location path = .ok there := by
  obtain ⟨entry, middle, hentry, hpure⟩ := runs_bind_ok.1 h
  obtain ⟨hfound, -⟩ := runs_pure.1 hpure
  constructor
  · rintro rfl
    cases entry with
    | none => cases hfound
    | some entry =>
      obtain ⟨-, location, hstatus⟩ := status_of_entry hentry
      exact ⟨_, hstatus⟩
  · rintro ⟨⟨location, there⟩, hstatus⟩
    cases (hentry.unique (run_entry_of_status clean hstatus)).1
    exact Except.ok.inj hfound

theorem removes_of_removeStale (houses : host.Houses path directory)
    (h : Runs (removeStale (path.beside sibling)) host (.ok ()) after) :
    after = host.withTree after.tree ∧ FileTree.Removes host.location (path.beside sibling)
      (siblingAt directory path.stem sibling) host.tree after.tree := by
  obtain ⟨exists_, middle, hexists, hrest⟩ := runs_bind_ok.1 (runs_orElse_fail_ok.1 h)
  obtain rfl := quiet_pathExists _ _ _ hexists
  have hseen := pathExists_iff (houses.clean sibling) hexists
  split at hrest
  · rename_i hyes
    obtain ⟨-, location, entry, hwalk, hopen, rfl⟩ := unlink_found hrest
    obtain ⟨rfl, -⟩ := FileTree.at?_eq_entry (Except.ok.inj ((houses.walk (.inl rfl)).symm.trans hwalk))
    refine ⟨rfl, .inr rfl, iff_of_true ?_ fun _ _ => hseen.1 hyes⟩
    exact (FileTree.get?_erase _ _ _).trans (if_pos rfl)
  · rename_i hno
    obtain ⟨-, rfl⟩ := runs_pure.1 hrest
    refine ⟨rfl, .inl rfl, fun hnone target hlink => ?_, fun hlinks => ?_⟩
    · rw [hnone] at hlink
      cases hlink
    · by_contra hsome
      refine hno (hseen.2 ?_)
      by_cases hlink : ∃ target, after.tree.get? (siblingAt directory path.stem sibling) = some (.link target)
      · obtain ⟨target, hlink⟩ := hlink
        exact hlinks target hlink
      · obtain ⟨entry, hentry⟩ := Option.ne_none_iff_exists'.1 hsome
        have hstatus := (houses.finds fun target hlink' => hlink ⟨target, hlink'⟩).finds.status
        rw [← siblingAt_eq, hentry] at hstatus
        exact ⟨_, hstatus⟩

/-- A file is written where its path lands. -/
theorem writeFile_lands {bytes : List UInt8} (h : Runs (writeFile path bytes) host (.ok ()) after) :
    ∃ place, host.tree.Lands host.location path place ∧
      after = host.withTree (host.tree.set place (.file bytes)) := by
  obtain ⟨place, middle, hask, hset⟩ := runs_bind_ok.1 h
  obtain ⟨-, hwrite, rfl⟩ := runs_ask_ok.1 hask
  exact ⟨place, FileTree.lands_of_writeLocation hwrite, (runs_setEntry.1 hset).2⟩

theorem Host.Houses.of_parent {other : Host} (h : host.Houses path directory)
    (parent : other.tree.status other.location path.parent = .ok (directory, .directory)) :
    other.Houses path directory := ⟨h.clean, h.short, h.fits, FileTree.status_iff.1 parent⟩

theorem legacyFile_filed {legacy : Option Path} (h : Runs (legacyFile guest path) host (.ok legacy) after)
    (houses : after.Houses path directory) :
    legacy = legacyPath guest path ∧ after = host.withTree after.tree ∧ host.Houses path directory ∧
      (guest.legacyId ≠ Digest.zero → ∃ place, host.tree.Lands host.location (path.beside .legacy) place ∧
        after.tree = host.tree.set place (.file guest.legacyId.bytes)) ∧
      (guest.legacyId = Digest.zero → FileTree.Removes host.location (path.beside .legacy)
        (siblingAt directory path.stem .legacy) host.tree after.tree) := by
  have hparent := FileTree.status_iff.2 houses.parent
  unfold legacyFile at h
  unfold legacyPath
  split at h
  · rename_i happlies
    obtain ⟨written, hwrites, rfl⟩ := runs_map_ok.1 h
    obtain ⟨rfl, hwrite⟩ := writeDigest_ok hwrites
    obtain ⟨place, hlands, rfl⟩ := writeFile_lands hwrite
    rw [if_pos happlies]
    refine ⟨rfl, rfl, houses.of_parent ?_, fun _ => ⟨place, hlands, rfl⟩, fun hzero => absurd hzero happlies⟩
    exact (FileTree.alike_set hlands.leaf _).symm.directory hparent
  · rename_i hzero
    obtain ⟨_, middle, hremoves, hpure⟩ := runs_bind_ok.1 h
    obtain ⟨hanswer, rfl⟩ := runs_pure.1 hpure
    have hhouses : host.Houses path directory := by
      rcases removeStale_after hremoves with rfl | ⟨-, location, entry, -, -, rfl⟩
      · exact houses
      · exact houses.of_parent (FileTree.directory_of_erase hparent)
    obtain ⟨hafter, hremoved⟩ := removes_of_removeStale hhouses hremoves
    rw [if_neg hzero]
    exact ⟨Except.ok.inj hanswer, hafter, hhouses, fun happlies => absurd happlies hzero, fun _ => hremoved⟩

/-- Writing identifier files leads through trees as it should. -/
theorem filed_of_identifiers {legacy : Option Path} {written : Path}
    (h : Runs (identifiers guest path) host (.ok (legacy, written)) after) :
    legacy = legacyPath guest path ∧ written = path.beside (.id guest.imageId.context) ∧
    after = host.withTree after.tree ∧ ∃ directory, host.Houses path directory ∧
      (∃ first second, Filing.Filed ⟨guest, path, directory, host.location⟩ host.tree first second after.tree) ∧
      ∀ found, after.tree.status after.location (path.beside (.id guest.imageId.context.other)) ≠ .ok found := by
  have hnames : path.names ≠ [] := by
    intro hnil
    obtain ⟨-, fault, hfails⟩ := identifiers_nameless hnil h
    cases hfails
  rw [identifiers_eq hnames] at h
  obtain ⟨legacy', first, hlegacy, hrest⟩ := runs_bind_ok.1 h
  obtain ⟨written', second, hwrites, hrest⟩ := runs_bind_ok.1 hrest
  obtain ⟨_, last, hremoves, hpure⟩ := runs_bind_ok.1 hrest
  obtain ⟨hanswer, rfl⟩ := runs_pure.1 hpure
  cases hanswer
  obtain ⟨rfl, hwrite⟩ := writeDigest_ok hwrites
  obtain ⟨hclean, found, location, hwalk, -, -⟩ := writeFile_found hwrite
  obtain ⟨directory, hhouses⟩ := Host.houses_of_walk hclean hwalk
  obtain ⟨rfl, hfirst, hhost, hwritten, hremoved⟩ := legacyFile_filed hlegacy hhouses
  obtain ⟨place, hlands, hsecond⟩ := writeFile_lands hwrite
  have hhousesSecond : second.Houses path directory := by
    rw [hsecond]
    exact hhouses.of_parent ((FileTree.alike_set hlands.leaf _).directory (FileTree.status_iff.2 hhouses.parent))
  obtain ⟨hafter, hother⟩ := removes_of_removeStale hhousesSecond hremoves
  have hgone := removed (hhousesSecond.clean _) (runs_orElse_fail_ok.1 hremoves)
  have hlocation : first.location = host.location := by
    rw [hfirst]
    rfl
  rw [hlocation] at hlands
  rw [hsecond] at hafter hother
  refine ⟨rfl, rfl, ?_, directory, hhost, ⟨first.tree, _, hwritten, hremoved, ⟨place, hlands, rfl⟩, ?_⟩, hgone⟩
  · rw [hafter, hfirst]
    rfl
  · rw [← hlocation]
    exact hother

/-- Writing identifier files reports the right paths, and leaves the path of the other kind leading nowhere, though a
link to nothing can stay there. Whatever the three files are links to, they are as they should be in the end exactly
where these links do no harm. -/
theorem identifiers_resolved_iff {legacy : Option Path} {written : Path}
    (h : Runs (identifiers guest path) host (.ok (legacy, written)) after) :
    legacy = (if guest.legacyId ≠ Digest.zero then some (path.beside .legacy) else none) ∧
    written = path.beside (.id guest.imageId.context) ∧
    ∃ directory, host.tree.status host.location path.parent = .ok (directory, .directory) ∧
      (∀ found, after.tree.status after.location (path.beside (.id guest.imageId.context.other)) ≠ .ok found) ∧
      (∀ entry, after.tree.get? (siblingAt directory path.stem (.id guest.imageId.context.other)) = some entry →
        host.tree.get? (siblingAt directory path.stem (.id guest.imageId.context.other)) = some entry ∧
          ∃ target, entry = .link target) ∧
      (Filing.Resolved ⟨guest, path, directory, after.location⟩ after.tree ↔
        Filing.Untangled ⟨guest, path, directory, host.location⟩ host.tree) := by
  obtain ⟨hlegacy, hwritten, hafter, directory, hhouses, ⟨first, second, hfiled⟩, hgone⟩ := filed_of_identifiers h
  have hlocation : after.location = host.location := by
    rw [hafter]
    rfl
  refine ⟨hlegacy, hwritten, directory, FileTree.status_iff.2 hhouses.parent, hgone,
    fun entry hentry => hfiled.left_link hentry, ?_⟩
  rw [hlocation]
  exact ⟨hfiled.untangled, hfiled.resolved⟩

end hosts

namespace Small

def based : Path := base workspace.root guest

def woven : Host :=
  fresh.withTree ((fresh.tree.set ["w", "b.uid"] (.link "b.kid")).set ["w", "b.iid"] (.link "first"))

def rewoven : Host := ((identifiers guest based).run.run woven).2

def dangling : Host := fresh.withTree (fresh.tree.set ["w", "b.uid"] (.link "nowhere"))

def crossed : Host := fresh.withTree (fresh.tree.set ["w", "b.kid"] (.link "b.uid"))

end Small

theorem identifiers_resolved_iff_woven :
    Runs (identifiers Small.guest Small.based) Small.woven
      (.ok (some (Small.based.beside .legacy), Small.based.beside (.id .kernel))) Small.rewoven ∧
    Filing.Resolved ⟨Small.guest, Small.based, ["w"], Small.rewoven.location⟩ Small.rewoven.tree ∧
    Filing.Untangled ⟨Small.guest, Small.based, ["w"], Small.woven.location⟩ Small.woven.tree := by
  have hruns : Runs (identifiers Small.guest Small.based) Small.woven
      (.ok (some (Small.based.beside .legacy), Small.based.beside (.id .kernel))) Small.rewoven :=
    runs_of_toOption (by decide +kernel)
  obtain ⟨-, -, directory, hparent, -, -, hiff⟩ := identifiers_resolved_iff hruns
  have hw : Small.woven.tree.status Small.woven.location Small.based.parent = .ok (["w"], .directory) := by
    decide +kernel
  rw [hw] at hparent
  cases hparent
  have hresolved : Filing.Resolved ⟨Small.guest, Small.based, ["w"], Small.rewoven.location⟩ Small.rewoven.tree :=
    ⟨by decide +kernel, by decide +kernel, fun _ => by decide +kernel, fun hzero => absurd hzero (by decide +kernel)⟩
  exact ⟨hruns, hresolved, hiff.1 hresolved⟩

/-- A stale link to nothing stays, and what was written at the end of a link to a stale file is lost. -/
theorem tangled_links_do_harm :
    (∃ after, Runs (identifiers Small.guest Small.based) Small.dangling
        (.ok (some (Small.based.beside .legacy), Small.based.beside (.id .kernel))) after ∧
      after.tree.get? ["w", "b.uid"] = some (.link "nowhere")) ∧
    ∃ after, Runs (identifiers Small.guest Small.based) Small.crossed
        (.ok (some (Small.based.beside .legacy), Small.based.beside (.id .kernel))) after ∧
      after.tree.read after.location (Small.based.beside (.id .kernel)) = .error .noEntry :=
  ⟨⟨_, runs_of_toOption (by decide +kernel), by decide +kernel⟩,
    ⟨_, runs_of_toOption (by decide +kernel), by decide +kernel⟩⟩

end GuestForge
