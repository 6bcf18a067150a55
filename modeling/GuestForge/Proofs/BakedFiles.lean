import GuestForge.Proofs.DigestText
import GuestForge.Proofs.PublishDirectories
import GuestForge.Proofs.Recipes
set_option autoImplicit false

/-!
# The files of a completed run

What a publication wrote stays until the end of the run, unless a later guest is published under the same path:
builds keep out of the publish directories, and the siblings of other stems or in other directories are other
locations. So the report on a run can be checked against the tree that the run leaves.
-/
namespace GuestForge

def Path.Inside (path : Path) (location : Location) : Prop := path.location <+: location ∧ path.location ≠ location

section reports
variable {package : Package} {guest : BuiltGuest} {entry : PublishedGuest} {before after : Session}

theorem anchor_base (directory : Path) (guest : BuiltGuest) :
    (Publish.base directory guest).anchor = directory.anchor :=
  (Publish.parent_base directory guest).1

theorem location_beside (named : guest.path.names ≠ []) (sibling : Sibling) :
    ((Publish.base package.publishDirectory guest).beside sibling).location =
      siblingAt package.publishDirectory.location guest.path.stem sibling := by
  have hparent : (Publish.base package.publishDirectory guest).names.dropLast = package.publishDirectory.names :=
    congrArg Path.names (Publish.parent_base_eq named)
  rw [Path.location, Path.beside, Path.withLast, List.map_append, hparent]
  simp only [Path.extended, siblingAt, Path.location, Publish.stem_base _ named, List.map_cons, List.map_nil]

theorem Path.eq_of_location {path other : Path} (hanchor : path.anchor = other.anchor)
    (hlocation : path.location = other.location) : path = other := by
  have hinjective : ∀ name other : Name, name.text = other.text → name = other := by
    rintro ⟨text, hvalid⟩ ⟨_, _⟩ rfl
    rfl
  obtain ⟨anchor, names⟩ := path
  obtain ⟨_, others⟩ := other
  obtain rfl := hanchor
  obtain rfl : names = others := (List.map_inj_right hinjective).1 hlocation
  rfl

theorem elfPath_eq {other : Package} {otherGuest : BuiltGuest} (plain : package.manifest.Plain)
    (plain' : other.manifest.Plain) (named : guest.path.names ≠ []) (named' : otherGuest.path.names ≠ [])
    (hdirectory : other.publishDirectory.location = package.publishDirectory.location)
    (hstem : otherGuest.path.stem = guest.path.stem) :
    (PublishedGuest.of other otherGuest).elfPath = (PublishedGuest.of package guest).elfPath := by
  apply Path.eq_of_location
  · change (Publish.base _ _).anchor = (Publish.base _ _).anchor
    rw [anchor_base, anchor_base, (other.plain_publishDirectory plain').1, (package.plain_publishDirectory plain).1]
  · change ((Publish.base _ _).beside .elf).location = ((Publish.base _ _).beside .elf).location
    rw [location_beside named, location_beside named', hdirectory, hstem]

/-- The bytes that the reported path of a guest holds when the binary is copied, the publish directory being there. -/
def HoldsWhenCopied (package : Package) (guest : BuiltGuest) (host : Host) (binary : List UInt8) : Prop :=
  ∃ made, FileTree.Grows (FileTree.Passes host.location package.publishDirectory) host.tree made ∧
    made.read host.location guest.path = .ok binary

theorem HoldsWhenCopied.of_read {host : Host} {binary bytes : List UInt8} (free : host.tree.LinkFree)
    (h : HoldsWhenCopied package guest host binary) (hread : host.tree.read host.location guest.path = .ok bytes) :
    bytes = binary := by
  obtain ⟨made, hgrows, hmade⟩ := h
  have hagain := hgrows.read free hread
  rw [hmade] at hagain
  exact (Except.ok.inj hagain).symm

structure Accurate (package : Package) (guest : BuiltGuest) (entry : PublishedGuest) (binary : List UInt8)
    (tree : FileTree) : Prop where
  elf : tree.get? entry.elfPath.location = some (.file binary)
  imageId : ∃ digest, Digest.ofHex entry.imageId.digest.toHex = .ok digest ∧ digest.bytes.length = 32 ∧
    tree.get? entry.imageIdPath.location = some (.file digest.bytes)
  suffix : ∀ context, context.suffix.toList <:+ entry.imageIdPath.fileName.toList ↔ entry.imageId.context = context
  legacy : entry.legacyIdPath.isSome ↔ guest.legacyId ≠ Digest.zero
  legacyId : ∀ path, entry.legacyIdPath = some path → tree.get? path.location = some (.file guest.legacyId.bytes)
  absent : ∀ sibling, guest.content binary sibling = none →
    tree.get? ((Publish.base package.publishDirectory guest).beside sibling).location = none

theorem suffix_iff (path : Path) (own context : Context) :
    context.suffix.toList <:+ (path.beside (.id own)).fileName.toList ↔ own = context := by
  have hfile : (path.beside (.id own)).fileName = path.stem ++ own.suffix := by
    rw [Path.fileName, Path.name?, Path.beside, Path.withLast, List.getLast?_concat, ← Sibling.extension_id]
    rfl
  rw [hfile, String.toList_append, ← Sibling.extension_id, ← Sibling.extension_id]
  constructor
  · rintro ⟨before, hbefore⟩
    have hsuffix := (List.append_inj' hbefore (by rw [Sibling.extension_length, Sibling.extension_length])).2
    cases Sibling.extension_injective (String.toList_inj.1 hsuffix)
    rfl
  · rintro rfl
    exact List.suffix_append _ _

theorem accurate_of {binary : List UInt8} {tree : FileTree} (named : guest.path.names ≠ [])
    (holds : ∀ sibling, tree.get? (siblingAt package.publishDirectory.location guest.path.stem sibling) =
      (guest.content binary sibling).map .file) : Accurate package guest (.of package guest) binary tree := by
  have hfile : ∀ sibling, tree.get? ((Publish.base package.publishDirectory guest).beside sibling).location =
      (guest.content binary sibling).map .file := by
    intro sibling
    rw [location_beside named, holds]
  refine ⟨hfile .elf, ⟨guest.imageId.digest, Digest.ofHex_encode _, guest.imageId.digest.length_bytes, ?_⟩,
    fun context => suffix_iff _ _ context, ?_, ?_, ?_⟩
  · exact (hfile _).trans (congrArg _ (guest.content_own binary))
  · by_cases hzero : guest.legacyId = Digest.zero <;> simp [PublishedGuest.of, Publish.legacyPath, hzero]
  · intro path hpath
    by_cases hzero : guest.legacyId ≠ Digest.zero
    · have hlegacy : some ((Publish.base package.publishDirectory guest).beside .legacy) = some path :=
        (if_pos hzero).symm.trans hpath
      have hcontent : guest.content binary .legacy = some guest.legacyId.bytes := if_pos hzero
      rw [← Option.some.inj hlegacy, hfile, hcontent]
      rfl
    · have hlegacy : none = some path := (if_neg hzero).symm.trans hpath
      cases hlegacy
  · intro sibling hnone
    rw [hfile, hnone]
    rfl

end reports

section batches
variable {plan : Plan} {batches : List Batch} {before after : Session}

/-- An event of complete batches makes no links, and it keeps the locations that builds spare and that are neither
files of its own guest nor on the way there. -/
theorem keeps_of_mem_batches (plain : ∀ batch ∈ batches, batch.package.manifest.Plain)
    {region : Location → Prop} (spares : Spares plan.builder region) {event : Event}
    (hevent : event ∈ batches.flatMap plan.batch) (h : event.Happens before after)
    (free : before.host.tree.LinkFree) :
    after.host.tree.LinkFree ∧ ∀ location, region location →
      (∀ package ∈ batches.map Batch.package, ∀ guest,
        event = .published package guest (.ok (.of package guest)) → guest.path.names ≠ [] →
          ¬ location <+: package.publishDirectory.location ∧
          ∀ sibling, siblingAt package.publishDirectory.location guest.path.stem sibling ≠ location) →
      after.host.tree.get? location = before.host.tree.get? location := by
  rcases Plan.mem_batches hevent with ⟨package, guests, rfl⟩ | ⟨batch, hbatch, guest, entry, rfl⟩
  · obtain ⟨hfree, hspares⟩ := spares.build h free
    exact ⟨hfree, fun location hregion _ => hspares location hregion⟩
  · have hpublishes := (runs_onHost.1 h).1
    obtain ⟨made, binary, hsettled, rfl, hready, -⟩ := publishGuest_ok free hpublishes
    obtain ⟨hfree, hkeeps⟩ := publishGuest_spares (plain batch hbatch) free hpublishes
    refine ⟨hfree, fun location _ hother => ?_⟩
    obtain ⟨hoff, hsiblings⟩ := hother batch.package (List.mem_map_of_mem hbatch) guest rfl hready.named
    exact hkeeps location hoff hsiblings

theorem linkFree_of_batches (plain : ∀ batch ∈ batches, batch.package.manifest.Plain)
    {region : Location → Prop} (spares : Spares plan.builder region) {events : List Event}
    (hevents : ∀ event ∈ events, event ∈ batches.flatMap plan.batch) (h : Trace before events after)
    (free : before.host.tree.LinkFree) : after.host.tree.LinkFree := by
  apply h.invariant (fun session => session.host.tree.LinkFree) _ free
  intro event hevent s t happens hfree
  exact (keeps_of_mem_batches plain spares (hevents event hevent) happens hfree).1

/-- The packages' publish directories do not lie inside one another. -/
def Apart (packages : List Package) : Prop :=
  ∀ package ∈ packages, ∀ other ∈ packages,
    package.publishDirectory.location <+: other.publishDirectory.location →
      package.publishDirectory.location = other.publishDirectory.location

def InsideAny (packages : List Package) (location : Location) : Prop :=
  ∃ package ∈ packages, package.publishDirectory.Inside location

theorem inside_siblingAt (path : Path) (stem : String) (sibling : Sibling) :
    path.Inside (siblingAt path.location stem sibling) := by
  refine ⟨List.prefix_append _ _, fun h => ?_⟩
  have hlength := congrArg List.length h
  simp [siblingAt] at hlength

/-- Directories that do not lie inside one another are not on the way to one another either. -/
theorem Apart.off {packages : List Package} (apart : Apart packages) {location : Location}
    (hinside : InsideAny packages location) {other : Package} (hother : other ∈ packages) :
    ¬ location <+: other.publishDirectory.location := by
  obtain ⟨package, hpackage, hbelow, hne⟩ := hinside
  intro hoff
  have hsame := apart package hpackage other hother (hbelow.trans hoff)
  rw [← hsame] at hoff
  exact hne (hbelow.eq_of_length (Nat.le_antisymm hbelow.length_le hoff.length_le))

theorem siblings_stay (plain : ∀ batch ∈ batches, batch.package.manifest.Plain)
    (apart : Apart (batches.map Batch.package)) (spares : Spares plan.builder (InsideAny (batches.map Batch.package)))
    {package : Package} (hpackage : package ∈ batches.map Batch.package) {guest : BuiltGuest}
    (named : guest.path.names ≠ []) {later : List Event} (hlater : ∀ event ∈ later, event ∈ batches.flatMap plan.batch)
    (last : ∀ other otherGuest entry, .published other otherGuest (.ok entry) ∈ later →
      entry.elfPath ≠ (PublishedGuest.of package guest).elfPath)
    (h : Trace before later after) (free : before.host.tree.LinkFree) (sibling : Sibling) :
    after.host.tree.get? (siblingAt package.publishDirectory.location guest.path.stem sibling) =
      before.host.tree.get? (siblingAt package.publishDirectory.location guest.path.stem sibling) := by
  have hplain : ∀ package ∈ batches.map Batch.package, package.manifest.Plain := by
    intro package hpackage
    obtain ⟨batch, hbatch, rfl⟩ := List.mem_map.1 hpackage
    exact plain batch hbatch
  have hinside : InsideAny (batches.map Batch.package)
      (siblingAt package.publishDirectory.location guest.path.stem sibling) :=
    ⟨package, hpackage, inside_siblingAt _ _ _⟩
  refine (h.invariant (fun session => session.host.tree.LinkFree ∧
    session.host.tree.get? (siblingAt package.publishDirectory.location guest.path.stem sibling) =
      before.host.tree.get? (siblingAt package.publishDirectory.location guest.path.stem sibling))
    ?_ ⟨free, rfl⟩).2
  rintro event hevent s t happens ⟨hfree, hsame⟩
  obtain ⟨hfree', hkeeps⟩ := keeps_of_mem_batches plain spares (hlater event hevent) happens hfree
  refine ⟨hfree', (hkeeps _ hinside ?_).trans hsame⟩
  rintro other hother otherGuest rfl hnamed
  refine ⟨apart.off hinside hother, fun otherSibling hshared => ?_⟩
  obtain ⟨hdirectory, hstem, -⟩ := siblingAt_inj.1 hshared
  exact last _ _ _ hevent
    (elfPath_eq (hplain package hpackage) (hplain other hother) named hnamed hdirectory hstem)

theorem published_of_split (plain : ∀ batch ∈ batches, batch.package.manifest.Plain) {region : Location → Prop}
    (spares : Spares plan.builder region) (h : Trace before (batches.flatMap plan.batch) after)
    (free : before.host.tree.LinkFree) {earlier later : List Event} {package : Package} {guest : BuiltGuest}
    {entry : PublishedGuest}
    (hsplit : batches.flatMap plan.batch = earlier ++ .published package guest (.ok entry) :: later) :
    ∃ start middle made binary, Trace before earlier start ∧ Trace middle later after ∧ start.host.tree.LinkFree ∧
      Settled package guest start.host made binary (publicationOrder guest) middle.host ∧
      entry = .of package guest ∧ Ready package guest (start.host.withTree made) binary := by
  rw [hsplit] at h
  obtain ⟨start, middle, hearlier, hpublished, hlater⟩ := trace_split h
  have hfree : start.host.tree.LinkFree := by
    refine linkFree_of_batches plain spares (fun event hevent => ?_) hearlier free
    rw [hsplit]
    exact List.mem_append_left _ hevent
  obtain ⟨made, binary, hsettled, hentry, hready, -⟩ := publishGuest_ok hfree (runs_onHost.1 hpublished).1
  exact ⟨start, middle, made, binary, hearlier, hlater, hfree, hsettled, hentry, hready⟩

theorem entries_of_batches (plain : ∀ batch ∈ batches, batch.package.manifest.Plain) {region : Location → Prop}
    (spares : Spares plan.builder region) (h : Trace before (batches.flatMap plan.batch) after)
    (free : before.host.tree.LinkFree) : batches.flatMap Batch.entries =
      batches.flatMap fun batch => batch.published.map fun (guest, _) => .of batch.package guest := by
  rw [List.flatMap_def, List.flatMap_def]
  congr 1
  refine List.map_congr_left fun batch hbatch => List.map_congr_left fun (guest, entry) hpair => ?_
  have hevent : Event.published batch.package guest (.ok entry) ∈ batches.flatMap plan.batch :=
    List.mem_flatMap.2 ⟨batch, hbatch, List.mem_cons_of_mem _ (List.mem_map.2 ⟨(guest, entry), hpair, rfl⟩)⟩
  obtain ⟨earlier, later, hsplit⟩ := List.append_of_mem hevent
  obtain ⟨-, -, -, -, -, -, -, -, hentry, -⟩ := published_of_split plain spares h free hsplit
  exact hentry

end batches

section bake
variable {workspace : Workspace} {builder : Builder} {configuration : Configuration} {selection : Selection}
  {root : Option Path} {before after : Session} {result : BakeResult}

/-- The report on a run lists the packages and all guests that the builds reported, in order; and the files of each
guest that no later one replaces are in the tree that the run leaves, as the report has them. -/
structure ReportAccurate (plan : Plan) (packages : List Package) (batches : List Batch) (before : Session)
    (result : BakeResult) (after : Session) : Prop where
  baked : batches.map Batch.package = packages
  run : Trace before (batches.flatMap plan.batch) after
  names : result.packages = packages.map Package.name
  entries : result.guests = batches.flatMap fun batch => batch.published.map fun (guest, _) => .of batch.package guest
  files : ∀ earlier package guest entry later,
    batches.flatMap plan.batch = earlier ++ .published package guest (.ok entry) :: later →
    (∀ other otherGuest otherEntry, .published other otherGuest (.ok otherEntry) ∈ later →
      otherEntry.elfPath ≠ entry.elfPath) →
    ∃ session binary, Trace before earlier session ∧ HoldsWhenCopied package guest session.host binary ∧
      (∀ bytes, session.host.tree.read session.host.location guest.path = .ok bytes → bytes = binary) ∧
      Accurate package guest entry binary after.host.tree

theorem bake_report_accurate (free : before.host.tree.LinkFree)
    (plain : ∀ package ∈ workspace.guests selection, package.manifest.Plain)
    (apart : Apart (workspace.guests selection)) (spares : Spares builder (InsideAny (workspace.guests selection)))
    (h : Runs (bake workspace builder configuration selection root) before (.ok result) after) :
    ∃ batches, ReportAccurate (workspace.plan builder configuration root before.host) (workspace.guests selection)
      batches before result after := by
  obtain ⟨outcome, events, hcourse, hanswer, htrace⟩ := runs_bake.1 h
  cases outcome with
  | error fault => cases hanswer
  | ok batches =>
    obtain ⟨hpackages, rfl⟩ := hcourse
    cases hanswer
    have hplain : ∀ batch ∈ batches, batch.package.manifest.Plain := fun batch hbatch =>
      plain _ (hpackages ▸ List.mem_map_of_mem hbatch)
    rw [← hpackages] at apart spares ⊢
    refine ⟨batches, rfl, htrace, (List.map_map ..).symm, entries_of_batches hplain spares htrace free, ?_⟩
    intro earlier package guest entry later hsplit hlast
    obtain ⟨start, middle, made, binary, hearlier, hlater, hfree, hsettled, rfl, hready⟩ :=
      published_of_split hplain spares htrace free hsplit
    have hholds : HoldsWhenCopied package guest start.host binary := by
      obtain ⟨directory, name, hreaches, hfile⟩ := hready.source
      exact ⟨made, hsettled.grows, hreaches.reaches.read (hsettled.grows.linkFree hfree) hfile⟩
    have hmember : .published package guest (.ok (.of package guest)) ∈ batches.flatMap
        (workspace.plan builder configuration root before.host).batch := by
      rw [hsplit]
      exact List.mem_append_right _ List.mem_cons_self
    have hpackage : package ∈ batches.map Batch.package := Plan.makes_batches hmember
    have hlaterEvents : ∀ event ∈ later, event ∈ batches.flatMap
        (workspace.plan builder configuration root before.host).batch := by
      intro event hevent
      rw [hsplit]
      exact List.mem_append_right _ (List.mem_cons_of_mem _ hevent)
    refine ⟨start, binary, hearlier, hholds, fun bytes => hholds.of_read hfree, accurate_of hready.named ?_⟩
    intro sibling
    have hdirectory := package.elfs_eq (plain _ (hpackages ▸ hpackage)) start.host.location
    rw [siblings_stay hplain apart spares hpackage hready.named hlaterEvents hlast hlater (hsettled.linkFree hfree),
      ← hdirectory]
    exact hsettled.get?_of_mem (mem_publicationOrder guest sibling)

theorem Small.plain (package : Package) (h : package ∈ Small.workspace.guests {}) : package.manifest.Plain := by
  rw [Small.eq_package h]
  decide +kernel

theorem Small.apart : Apart (Small.workspace.guests {}) := by
  intro package hpackage other hother _
  rw [Small.eq_package hpackage, Small.eq_package hother]

theorem Small.outside {step : BuildStep} (hstep : step ∈ Small.recipe.steps) {current location : Location}
    (h : step.Touches current location) : ¬ InsideAny (Small.workspace.guests {}) location := by
  rintro ⟨package, hpackage, hbelow, -⟩
  rw [Small.eq_package hpackage] at hbelow
  exact absurd (hbelow.trans (Small.isPrefix_of_step hstep h)) (by decide +kernel)

theorem Small.plain_pair (member : Package) (h : member ∈ Small.pair.guests {}) : member.manifest.Plain := by
  rcases Small.mem_pair h with rfl | rfl <;> decide +kernel

theorem Small.apart_pair : Apart (Small.pair.guests {}) := by
  intro member hmember other hother hprefix
  rcases Small.mem_pair hmember with rfl | rfl <;> rcases Small.mem_pair hother with rfl | rfl
  · rfl
  · exact absurd hprefix (by decide +kernel)
  · exact absurd hprefix (by decide +kernel)
  · rfl

theorem Small.outside_pair {member : Package} {step : BuildStep} (hstep : step ∈ (Small.pairRecipe member).steps)
    {current location : Location} (h : step.Touches current location) : ¬ InsideAny (Small.pair.guests {}) location := by
  rintro ⟨package, hpackage, hbelow, -⟩
  obtain ⟨last, hlast⟩ := Small.isPrefix_of_pairStep hstep h
  have hroot := hbelow.trans hlast
  rcases Small.mem_pair hpackage with rfl | rfl
  · exact absurd (List.cons_prefix_cons.1 (show ["w", "elfs"] <+: ["t", last] from hroot)).1 (by decide)
  · exact absurd (List.cons_prefix_cons.1 (show ["x", "elfs"] <+: ["t", last] from hroot)).1 (by decide)

theorem bake_report_accurate_small :
    ∃ result after batches,
      result.guests = [.of Small.package Small.guest, .of Small.package Small.secondGuest, .of Small.other Small.guest] ∧
      ReportAccurate (Small.pair.plan Small.pairBuilder {} none Small.host) (Small.pair.guests {}) batches
        ⟨Small.host, []⟩ result after := by
  have hspares : Spares Small.pairBuilder (InsideAny (Small.pair.guests {})) := fun _ _ _ =>
    Recipe.keeps_follow fun _ hstep _ _ htouches => Small.outside_pair hstep htouches
  have hruns : Runs (bake Small.pair Small.pairBuilder {} {} none) ⟨Small.host, []⟩ (.ok Small.pairResult) _ :=
    runs_of_toOption (by decide +kernel)
  obtain ⟨batches, haccurate⟩ :=
    bake_report_accurate Small.linkFree Small.plain_pair Small.apart_pair hspares hruns
  exact ⟨_, _, batches, rfl, haccurate⟩

end bake

end GuestForge
