import GuestForge.Proofs.BakedFiles
import GuestForge.Proofs.FirstFailure
import Mathlib.Data.List.Nodup
set_option autoImplicit false

/-!
# Which guests share published files

The name of a published file keeps of the reported path only the last name without its last extension. So guests of
one package whose names agree that far are published under one path, and no others are: what a run publishes for
packages in different directories is apart.
-/
namespace GuestForge
open HostM

namespace Publish
variable {host after : Host} {path : Path} {guest : BuiltGuest}

theorem elf_ok {directory written : Path} (hnames : directory.names ≠ [])
    (h : Runs (elf guest directory) host (.ok written) after) :
    written = (base directory guest).beside .elf ∧
      ∃ middle, Runs (copyFile guest.path ((base directory guest).beside .elf)) middle (.ok ()) after := by
  rw [elf_eq hnames] at h
  obtain ⟨_, middle, -, hrest⟩ := runs_bind_ok.1 h
  obtain ⟨_, last, hcopy, hpure⟩ := runs_bind_ok.1 hrest
  obtain ⟨hwritten, rfl⟩ := runs_pure.1 hpure
  refine ⟨Except.ok.inj hwritten, middle, ?_⟩
  rcases runs_orElse_ok.1 hcopy with hcopy | ⟨error, _, -, hfails⟩
  · exact hcopy
  · cases (runs_fail.1 hfails).1

theorem legacyFile_ok {written : Option Path} (h : Runs (legacyFile guest path) host (.ok written) after) :
    written = legacyPath guest path := by
  unfold legacyFile at h
  unfold legacyPath
  split at h
  · rw [if_pos ‹_›]
    obtain ⟨own, hwrites, rfl⟩ := runs_map_ok.1 h
    rw [(writeDigest_ok hwrites).1]
  · rw [if_neg ‹_›]
    obtain ⟨_, middle, -, hpure⟩ := runs_bind_ok.1 h
    exact Except.ok.inj (runs_pure.1 hpure).1

theorem identifiers_ok {written : Option Path × Path} (hnames : path.names ≠ [])
    (h : Runs (identifiers guest path) host (.ok written) after) :
    written = (legacyPath guest path, path.beside (.id guest.imageId.context)) := by
  rw [identifiers_eq hnames] at h
  obtain ⟨legacy, middle, hlegacy, hrest⟩ := runs_bind_ok.1 h
  obtain ⟨own, last, hwrites, hremoves⟩ := runs_bind_ok.1 hrest
  obtain ⟨_, final, -, hpure⟩ := runs_bind_ok.1 hremoves
  rw [Except.ok.inj (runs_pure.1 hpure).1, legacyFile_ok hlegacy, (writeDigest_ok hwrites).1]

theorem named_of_copyFile {source target : Path} (h : Runs (copyFile source target) host (.ok ()) after) :
    source.names ≠ [] := by
  intro hnil
  obtain ⟨-, bytes, hread, -⟩ := copyFile_ok h
  obtain ⟨-, hread, -⟩ := runs_ask_ok.1 hread
  unfold FileTree.read FileTree.status FileTree.walk at hread
  rw [hnil] at hread
  split at hread <;> cases hread

end Publish

variable {package : Package} {guest : BuiltGuest} {host after : Host} {entry : PublishedGuest}

/-- The report on a published guest does not depend on the host, links or none. -/
theorem publishGuest_reports (h : Runs (publishGuest package guest) host (.ok entry) after) :
    entry = .of package guest ∧ guest.path.names ≠ [] := by
  rw [publishGuest_eq] at h
  obtain ⟨elfPath, middle, helf, hrest⟩ := runs_bind_ok.1 h
  obtain ⟨written, last, hidentifiers, hpure⟩ := runs_bind_ok.1 hrest
  obtain ⟨rfl, _, hcopy⟩ := Publish.elf_ok (names_publishDirectory package) helf
  obtain rfl := Publish.identifiers_ok (Publish.names_base (names_publishDirectory package)) hidentifiers
  exact ⟨Except.ok.inj (runs_pure.1 hpure).1, Publish.named_of_copyFile hcopy⟩

theorem directory_of_publishDirectory {package other : Package}
    (h : package.publishDirectory = other.publishDirectory) : package.directory = other.directory := by
  rw [package.publishDirectory_eq, other.publishDirectory_eq] at h
  obtain ⟨hanchor, hnames⟩ := Path.mk.inj h
  have houter := congrArg List.dropLast hnames
  rw [List.dropLast_concat, List.dropLast_concat] at houter
  unfold Package.directory Path.parent
  rw [hanchor, houter]

theorem beside_base_inj {other : Package} {otherGuest : BuiltGuest} {sibling otherSibling : Sibling}
    (named : guest.path.names ≠ []) (named' : otherGuest.path.names ≠ []) :
    (Publish.base package.publishDirectory guest).beside sibling =
        (Publish.base other.publishDirectory otherGuest).beside otherSibling ↔
      package.directory = other.directory ∧ guest.path.stem = otherGuest.path.stem ∧ sibling = otherSibling := by
  constructor
  · intro h
    have hanchor := congrArg Path.anchor h
    have hlocation := congrArg Path.location h
    change (Publish.base _ _).anchor = (Publish.base _ _).anchor at hanchor
    rw [anchor_base, anchor_base] at hanchor
    rw [location_beside named, location_beside named'] at hlocation
    obtain ⟨hdirectory, hstem, hsibling⟩ := siblingAt_inj.1 hlocation
    exact ⟨directory_of_publishDirectory (Path.eq_of_location hanchor hdirectory), hstem, hsibling⟩
  · rintro ⟨hdirectory, hstem, rfl⟩
    have hpublish : package.publishDirectory = other.publishDirectory := by
      unfold Package.publishDirectory
      rw [hdirectory]
    apply Path.eq_of_location
    · change (Publish.base _ _).anchor = (Publish.base _ _).anchor
      rw [anchor_base, anchor_base, hpublish]
    · rw [location_beside named, location_beside named', hpublish, hstem]

def Batch.PublishedAs (batch : Batch) (path : PublishedGuest → Path) (extension : BuiltGuest → Sibling) : Prop :=
  ∀ pair ∈ batch.published, pair.1.path.names ≠ [] ∧
    path pair.2 = (Publish.base batch.package.publishDirectory pair.1).beside (extension pair.1)

section batches
variable {plan : Plan} {batches : List Batch} {batch other : Batch} {before after : Session}
  {path : PublishedGuest → Path} {extension : BuiltGuest → Sibling}

theorem Batch.PublishedAs.nodup_iff (h : batch.PublishedAs path extension) : (batch.entries.map path).Nodup ↔
    (batch.published.map fun pair => (pair.1.path.stem, extension pair.1)).Nodup := by
  unfold Batch.entries List.Nodup
  rw [List.map_map, List.pairwise_map, List.pairwise_map]
  apply List.Pairwise.iff_of_mem
  intro pair other hpair hother
  obtain ⟨hnamed, heq⟩ := h pair hpair
  obtain ⟨hnamed', heq'⟩ := h other hother
  rw [Function.comp_apply, Function.comp_apply, heq, heq', ne_eq, ne_eq, beside_base_inj hnamed hnamed', Prod.mk.injEq]
  simp

theorem Batch.PublishedAs.disjoint (h : batch.PublishedAs path extension) (hother : other.PublishedAs path extension)
    (hne : batch.package.directory ≠ other.package.directory) :
    (batch.entries.map path).Disjoint (other.entries.map path) := by
  intro shared hshared hshared'
  obtain ⟨_, hentry, rfl⟩ := List.mem_map.1 hshared
  obtain ⟨pair, hpair, rfl⟩ := List.mem_map.1 hentry
  obtain ⟨_, hentry', hsame⟩ := List.mem_map.1 hshared'
  obtain ⟨pair', hpair', rfl⟩ := List.mem_map.1 hentry'
  obtain ⟨hnamed, heq⟩ := h pair hpair
  obtain ⟨hnamed', heq'⟩ := hother pair' hpair'
  rw [heq, heq'] at hsame
  exact hne ((beside_base_inj hnamed' hnamed).1 hsame).1.symm

theorem publishedAs_of_batches (h : Trace before (batches.flatMap plan.batch) after)
    (hpath : ∀ package guest,
      path (.of package guest) = (Publish.base package.publishDirectory guest).beside (extension guest))
    (hbatch : batch ∈ batches) : batch.PublishedAs path extension := by
  intro pair hpair
  have hevent : Event.published batch.package pair.1 (.ok pair.2) ∈ batches.flatMap plan.batch :=
    List.mem_flatMap.2 ⟨batch, hbatch, List.mem_cons_of_mem _ (List.mem_map.2 ⟨pair, hpair, rfl⟩)⟩
  obtain ⟨earlier, later, hsplit⟩ := List.append_of_mem hevent
  rw [hsplit] at h
  obtain ⟨start, middle, -, hpublished, -⟩ := trace_split h
  obtain ⟨hentry, hnamed⟩ := publishGuest_reports (runs_onHost.1 hpublished).1
  exact ⟨hnamed, hentry ▸ hpath batch.package pair.1⟩

/-- With packages in different directories, paths are shared only within a package, by guests with one stem and one
extension. -/
theorem nodup_paths_iff (distinct : (batches.map fun batch => batch.package.directory).Nodup)
    (h : Trace before (batches.flatMap plan.batch) after)
    (hpath : ∀ package guest,
      path (.of package guest) = (Publish.base package.publishDirectory guest).beside (extension guest)) :
    ((batches.flatMap Batch.entries).map path).Nodup ↔
      ∀ batch ∈ batches, (batch.published.map fun pair => (pair.1.path.stem, extension pair.1)).Nodup := by
  have hacross : batches.Pairwise (Function.onFun List.Disjoint fun batch => batch.entries.map path) := by
    refine (List.pairwise_map.1 distinct).imp_of_mem ?_
    intro batch other hbatch hother hne
    exact (publishedAs_of_batches h hpath hbatch).disjoint (publishedAs_of_batches h hpath hother) hne
  rw [List.map_flatMap, List.nodup_flatMap]
  constructor
  · rintro ⟨hall, -⟩ batch hbatch
    exact (publishedAs_of_batches h hpath hbatch).nodup_iff.1 (hall batch hbatch)
  · exact fun hall => ⟨fun batch hbatch => (publishedAs_of_batches h hpath hbatch).nodup_iff.2 (hall batch hbatch), hacross⟩

end batches

section bake
variable {workspace : Workspace} {builder : Builder} {configuration : Configuration} {selection : Selection}
  {root : Option Path} {before after : Session} {result : BakeResult}

/-- No two guests of a run share a published binary exactly when no two guests of one package have names that agree
up to the last extension; and no two share an identifier file exactly when no two such guests are of one context. -/
theorem bake_paths_nodup_iff (distinct : (workspace.packages.map Package.directory).Nodup)
    (h : Runs (bake workspace builder configuration selection root) before (.ok result) after) :
    ∃ batches, result = workspace.result batches ∧
      GoesThrough (workspace.plan builder configuration root before.host) (workspace.guests selection) batches
        before after ∧
      ((result.guests.map PublishedGuest.elfPath).Nodup ↔
        ∀ batch ∈ batches, (batch.published.map fun pair => pair.1.path.stem).Nodup) ∧
      ((result.guests.map PublishedGuest.imageIdPath).Nodup ↔
        ∀ batch ∈ batches, (batch.published.map fun pair => (pair.1.path.stem, pair.1.imageId.context)).Nodup) := by
  obtain ⟨outcome, events, hcourse, hanswer, htrace⟩ := runs_bake.1 h
  cases outcome with
  | error fault => cases hanswer
  | ok batches =>
    obtain ⟨hpackages, rfl⟩ := hcourse
    cases hanswer
    have hsublist : (workspace.guests selection).Sublist workspace.packages :=
      List.filter_sublist.trans List.filter_sublist
    have hdistinct : (batches.map fun batch => batch.package.directory).Nodup := by
      have hmap := distinct.sublist (hsublist.map Package.directory)
      rwa [← hpackages, List.map_map] at hmap
    have hrequests := htrace.requests
    rw [requests_batches, hpackages] at hrequests
    refine ⟨batches, rfl, ⟨hpackages, htrace, hrequests⟩, ?_, ?_⟩
    · have helf : Function.Injective fun stem : String => (stem, Sibling.elf) := fun _ _ hpair => (Prod.mk.inj hpair).1
      have helfPath : ∀ package guest, (PublishedGuest.of package guest).elfPath =
          (Publish.base package.publishDirectory guest).beside .elf := fun _ _ => rfl
      refine (nodup_paths_iff hdistinct htrace helfPath).trans ?_
      refine forall₂_congr fun batch _ => ?_
      rw [← List.nodup_map_iff helf, List.map_map]
      rfl
    · have hid : Function.Injective fun key : String × Context => (key.1, Sibling.id key.2) := by
        rintro ⟨stem, context⟩ ⟨_, _⟩ hpair
        cases hpair
        rfl
      have hidPath : ∀ package guest, (PublishedGuest.of package guest).imageIdPath =
          (Publish.base package.publishDirectory guest).beside (.id guest.imageId.context) := fun _ _ => rfl
      refine (nodup_paths_iff hdistinct htrace hidPath).trans ?_
      refine forall₂_congr fun batch _ => ?_
      rw [← List.nodup_map_iff hid, List.map_map]
      rfl

theorem bake_paths_nodup_small : ∃ (result : BakeResult) (after : Session) (batches : List Batch),
    result.guests = [.of Small.package Small.guest, .of Small.package Small.secondGuest, .of Small.other Small.guest] ∧
    GoesThrough (Small.pair.plan Small.pairBuilder {} none Small.host) (Small.pair.guests {}) batches
      ⟨Small.host, []⟩ after ∧
    (∀ batch ∈ batches, (batch.published.map fun pair => pair.1.path.stem).Nodup) ∧
    ∀ batch ∈ batches, (batch.published.map fun pair => (pair.1.path.stem, pair.1.imageId.context)).Nodup := by
  have hruns : Runs (bake Small.pair Small.pairBuilder {} {} none) ⟨Small.host, []⟩ (.ok Small.pairResult) _ :=
    runs_of_toOption (by decide +kernel)
  obtain ⟨batches, -, hrun, helf, hid⟩ := bake_paths_nodup_iff (by decide +kernel) hruns
  exact ⟨Small.pairResult, _, batches, rfl, hrun, helf.1 (by decide +kernel), hid.1 (by decide +kernel)⟩

def Small.twin : Path := ⟨.root, [Small.outputName, Small.name "b.x" (by decide)]⟩

def Small.twins : Recipe :=
  ⟨[.directory Small.twin.parent, .file Small.binary [7], .file Small.twin [8]],
    [Small.guest, { Small.guest with path := Small.twin }]⟩

/-- Guests with different paths, and still the second replaces the files of the first. -/
theorem twins_share_paths : ∃ (result : BakeResult) (after : Session),
    Runs (bake Small.workspace (fun _ _ _ => Small.twins.follow) {} {} none) ⟨Small.host, []⟩ (.ok result) after ∧
    (Small.workspace.packages.map Package.directory).Nodup ∧ (Small.twins.guests.map BuiltGuest.path).Nodup ∧
    ¬ (result.guests.map PublishedGuest.elfPath).Nodup ∧ ¬ (result.guests.map PublishedGuest.imageIdPath).Nodup ∧
    after.host.tree.get? ["w", "elfs", "b.elf"] = some (.file [8]) := by
  refine ⟨⟨Small.result.targetDirectory, ["p"], [.of Small.package Small.guest, .of Small.package Small.guest]⟩, _,
    runs_of_toOption ?_, ?_, ?_, ?_, ?_, ?_⟩
  all_goals decide +kernel

end bake

end GuestForge
