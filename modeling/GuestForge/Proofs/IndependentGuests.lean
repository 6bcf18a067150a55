import GuestForge.Proofs.ClearedWays
import GuestForge.Proofs.Confinement
set_option autoImplicit false

/-!
# Guests that are published independently

What a successful publication leaves can be said location by location: the directories on the way, the four siblings of
the guest, and nothing else. Two guests with different siblings agree on every directory that both need, so that it does
not matter which of them is published first.
-/
namespace GuestForge
open HostM

section leaves
variable {package : Package} {guest : BuiltGuest} {host after : Host} {binary : List UInt8}

/-- What a publication from a plain manifest leaves at a location, if the location concerns it. -/
def Publish.leaves (package : Package) (guest : BuiltGuest) (binary : List UInt8) (location : Location) :
    Option (Option Entry) :=
  if location ≠ [] ∧ location <+: package.publishDirectory.location then some (some .directory)
  else (lastChange (siblingChanges package.publishDirectory.location guest.path.stem (guest.content binary)
    (publicationOrder guest)) location).map (Option.map .file)

def Publish.Overlays (package : Package) (guest : BuiltGuest) (binary : List UInt8) (before after : FileTree) : Prop :=
  ∀ location, after.get? location = (Publish.leaves package guest binary location).getD (before.get? location)

structure Publishable (package : Package) (guest : BuiltGuest) (host : Host) (binary : List UInt8) : Prop where
  free : host.tree.LinkFree
  clear : host.tree.Clear package.publishDirectory.names
  source : host.tree.read host.location guest.path = .ok binary
  open_ : ∀ sibling,
    host.tree.get? (siblingAt package.publishDirectory.location guest.path.stem sibling) ≠ some .directory

theorem siblingAt_not_prefix (directory : Location) (stem : String) (sibling : Sibling) :
    ¬ siblingAt directory stem sibling <+: directory := by
  intro h
  have hlength := h.length_le
  rw [siblingAt, List.length_append, List.length_singleton] at hlength
  omega

theorem Publish.leaves_eq_some {location : Location} {left : Option Entry}
    (h : leaves package guest binary location = some left) :
    location ≠ [] ∧ location <+: package.publishDirectory.location ∧ left = some .directory ∨
      ∃ sibling, siblingAt package.publishDirectory.location guest.path.stem sibling = location := by
  unfold leaves at h
  split at h
  · rename_i hway
    exact .inl ⟨hway.1, hway.2, (Option.some.inj h).symm⟩
  · obtain ⟨content, hlast, -⟩ := Option.map_eq_some_iff.1 h
    obtain ⟨sibling, -, hsibling⟩ := List.mem_map.1 (lastChange_mem hlast)
    exact .inr ⟨sibling, (Prod.mk.inj hsibling).1⟩

theorem Publish.leaves_way {location : Location} (hne : location ≠ [])
    (way : location <+: package.publishDirectory.location) :
    leaves package guest binary location = some (some .directory) := if_pos ⟨hne, way⟩

/-- A successful publication has what it asks for, and leaves what it is to leave. -/
theorem publishGuest_overlays {entry : PublishedGuest} (plain : package.manifest.Plain) (free : host.tree.LinkFree)
    (source : host.tree.read host.location guest.path = .ok binary)
    (h : Runs (publishGuest package guest) host (.ok entry) after) :
    Publishable package guest host binary ∧ after = host.withTree after.tree ∧
      Publish.Overlays package guest binary host.tree after.tree := by
  obtain ⟨made, bytes, hsettled, -, hready, hmakes⟩ := publishGuest_ok free h
  have hplain := package.plain_publishDirectory plain
  have hopen := hsettled.open_
  have hafter := hsettled.after
  rw [package.elfs_eq plain] at hopen hafter
  have hsame : ∀ location, made.get? location = if location ≠ [] ∧ location <+: package.publishDirectory.location
      then some .directory else host.tree.get? location := get?_makeDirectories free hplain hmakes
  obtain rfl : bytes = binary := by
    obtain ⟨origin, name, hreaches, hfile⟩ := hready.source
    have hcopied := hreaches.reaches.read (hsettled.grows.linkFree free) hfile
    exact Except.ok.inj (hcopied.symm.trans (hsettled.grows.read free source))
  refine ⟨⟨free, clear_of_makeDirectories free hplain hmakes, source, fun sibling hdirectory => ?_⟩, ?_, ?_⟩
  · exact hopen sibling (mem_publicationOrder guest sibling) (hsettled.grows.stays hdirectory)
  · rw [hafter]
    rfl
  · intro location
    rw [hafter, Host.withTree_tree, FileTree.putSiblings, FileTree.get?_putAll, hsame, Publish.leaves]
    by_cases hway : location ≠ [] ∧ location <+: package.publishDirectory.location
    · rw [if_pos hway, if_pos hway, lastChange_eq_none]
      · rfl
      · rintro change hchange rfl
        obtain ⟨sibling, -, rfl⟩ := List.mem_map.1 hchange
        exact siblingAt_not_prefix _ _ _ hway.2
    · rw [if_neg hway, if_neg hway]
      cases lastChange (siblingChanges package.publishDirectory.location guest.path.stem (guest.content bytes)
        (publicationOrder guest)) location <;> rfl

theorem Host.Beside.entered {other : Host} {path : Path} {directory : Location} (h : host.Beside path directory)
    (location : other.location = host.location) (enters : other.Enters path.parent) : other.Beside path directory := by
  intro sibling
  obtain ⟨hclean, hreaches⟩ := h sibling
  obtain ⟨outer, hnames, hstroll⟩ := hreaches.names
  obtain ⟨rfl, -⟩ := Path.names_beside hnames
  obtain ⟨there, hthere⟩ := enters.there
  rw [location] at hthere
  have hdirectory : directory = there := (FileTree.stroll_directory hstroll).trans (FileTree.stroll_directory hthere).symm
  refine ⟨hclean, hreaches.short, ⟨_, hnames, ?_⟩, hreaches.proper, hreaches.fits⟩
  rw [location, hdirectory]
  exact hthere

/-- A guest that was published on one host can be published on any other that has what that asks for. -/
theorem run_publishGuest_elsewhere {other last : Host} {entry : PublishedGuest} (plain : package.manifest.Plain)
    (free : other.tree.LinkFree) (h : Runs (publishGuest package guest) other (.ok entry) last)
    (location : host.location = other.location) (ready : Publishable package guest host binary) :
    ∃ after, Runs (publishGuest package guest) host (.ok entry) after := by
  obtain ⟨made, _, -, rfl, hready, hmakes⟩ := publishGuest_ok free h
  have hplain := package.plain_publishDirectory plain
  have henters := makeDirectories_enters free hmakes
  obtain ⟨middle, hmiddle⟩ := run_makeDirectories_clear ready.free hplain henters.clean henters.short ready.clear
  obtain ⟨hafter, hgrows⟩ := extends_makeDirectories _ _ _ _ hmiddle
  have hfree : middle.tree.LinkFree := hgrows.linkFree ready.free
  have hsame : middle.location = host.location := by
    rw [hafter]
    rfl
  have hlocation : middle.location = (other.withTree made).location := hsame.trans location
  have hmiddleReady : Ready package guest middle binary := by
    obtain ⟨origin, name, hsource, -⟩ := hready.source
    obtain ⟨directory, last, hreaches, hfile⟩ := FileTree.read_eq_ok ready.free ready.source
    have hsourceReaches : host.Reaches guest.path directory last := ⟨hsource.clean, hreaches⟩
    refine ⟨⟨directory, last, hsourceReaches.mono hsame fun _ => hgrows.stays, hgrows.stays hfile⟩, ?_, ?_⟩
    · rw [hlocation]
      refine hready.beside.entered hlocation ?_
      rw [Publish.parent_base_eq hready.named]
      exact makeDirectories_enters ready.free hmiddle
    · rw [hlocation]
      exact hready.apart
  refine ⟨_, run_publishGuest hfree hmiddleReady hmiddle fun sibling => ?_⟩
  rw [package.elfs_eq plain, get?_makeDirectories ready.free hplain hmiddle,
    if_neg fun hway => siblingAt_not_prefix _ _ _ hway.2]
  exact ready.open_ sibling

end leaves

section pairs
variable {first second : Package} {guest other : BuiltGuest} {host after : Host} {binary bytes : List UInt8}

/-- The publish directories of two packages are the same or neither lies in the other, and two guests differ in the
directory or in the stem. -/
structure Independent (first : Package) (guest : BuiltGuest) (second : Package) (other : BuiltGuest) : Prop where
  unnested : first.publishDirectory = second.publishDirectory ∨
    ¬ first.publishDirectory.location <+: second.publishDirectory.location ∧
      ¬ second.publishDirectory.location <+: first.publishDirectory.location
  apart : (first.publishDirectory, guest.path.stem) ≠ (second.publishDirectory, other.path.stem)

namespace Independent

theorem symm (h : Independent first guest second other) : Independent second other first guest :=
  ⟨h.unnested.imp Eq.symm And.symm, h.apart.symm⟩

theorem sibling_off_way (h : Independent first guest second other) (stem : String) (sibling : Sibling) :
    ¬ siblingAt first.publishDirectory.location stem sibling <+: second.publishDirectory.location := by
  intro hway
  rcases h.unnested with hsame | ⟨hnested, -⟩
  · rw [← hsame] at hway
    exact siblingAt_not_prefix _ _ _ hway
  · exact hnested ((List.prefix_append _ _).trans hway)

theorem sibling_ne (h : Independent first guest second other) (sibling sibling' : Sibling) :
    siblingAt first.publishDirectory.location guest.path.stem sibling ≠
      siblingAt second.publishDirectory.location other.path.stem sibling' := by
  intro hsame
  obtain ⟨hlocation, hstem, -⟩ := siblingAt_inj.1 hsame
  rcases h.unnested with hdirectory | ⟨hnested, -⟩
  · exact h.apart (Prod.ext hdirectory hstem)
  · exact hnested (hlocation ▸ List.prefix_rfl)

theorem leaves_sibling (h : Independent first guest second other) (sibling : Sibling) :
    Publish.leaves first guest binary (siblingAt second.publishDirectory.location other.path.stem sibling) = none := by
  cases hleaves : Publish.leaves first guest binary
    (siblingAt second.publishDirectory.location other.path.stem sibling) with
  | none => rfl
  | some left =>
    rcases Publish.leaves_eq_some hleaves with ⟨-, hway, -⟩ | ⟨sibling', hsame⟩
    · exact absurd hway (h.symm.sibling_off_way _ _)
    · exact absurd hsame (h.sibling_ne sibling' sibling)

theorem leaves_way (h : Independent first guest second other) {location : Location} {left : Option Entry}
    (way : location <+: second.publishDirectory.location)
    (hleaves : Publish.leaves first guest binary location = some left) : left = some .directory := by
  rcases Publish.leaves_eq_some hleaves with ⟨-, -, hleft⟩ | ⟨sibling, rfl⟩
  · exact hleft
  · exact absurd way (h.sibling_off_way _ _)

theorem leaves_agree (h : Independent first guest second other) {location : Location} {left right : Option Entry}
    (hleft : Publish.leaves first guest binary location = some left)
    (hright : Publish.leaves second other bytes location = some right) : left = right := by
  rcases Publish.leaves_eq_some hright with ⟨-, hway, rfl⟩ | ⟨sibling, rfl⟩
  · exact h.leaves_way hway hleft
  · rw [h.leaves_sibling] at hleft
    cases hleft

/-- Two publications leave the same in either order. -/
theorem overlays_comm (h : Independent first guest second other) {before middle after between last : FileTree}
    (hmiddle : Publish.Overlays first guest binary before middle)
    (hafter : Publish.Overlays second other bytes middle after)
    (hbetween : Publish.Overlays second other bytes before between)
    (hlast : Publish.Overlays first guest binary between last) : after = last := by
  ext location : 1
  rw [hafter, hmiddle, hlast, hbetween]
  cases hleft : Publish.leaves first guest binary location with
  | none => rfl
  | some left =>
    cases hright : Publish.leaves second other bytes location with
    | none => rfl
    | some right => exact (h.leaves_agree hleft hright).symm

end Independent

theorem Publishable.read_other (ready : Publishable first guest host binary) (free : after.tree.LinkFree)
    (overlays : Publish.Overlays first guest binary host.tree after.tree) (location : after.location = host.location)
    {path : Path} (reads : host.tree.read host.location path = .ok bytes)
    (off : ∀ sibling,
      FileTree.spot host.location path ≠ siblingAt first.publishDirectory.location guest.path.stem sibling) :
    after.tree.read after.location path = .ok bytes := by
  obtain ⟨directory, name, hreaches, hfile⟩ := FileTree.read_eq_ok ready.free reads
  have hstays : ∀ place, host.tree.get? place = some .directory → after.tree.get? place = some .directory := by
    intro place hplace
    rw [overlays]
    cases hleaves : Publish.leaves first guest binary place with
    | none => exact hplace
    | some left =>
      rcases Publish.leaves_eq_some hleaves with ⟨-, -, rfl⟩ | ⟨sibling, rfl⟩
      · rfl
      · exact absurd hplace (ready.open_ sibling)
  have hkept : after.tree.get? (directory ++ [name.text]) = some (.file bytes) := by
    rw [overlays]
    cases hleaves : Publish.leaves first guest binary (directory ++ [name.text]) with
    | none => exact hfile
    | some left =>
      rcases Publish.leaves_eq_some hleaves with ⟨hne, hway, -⟩ | ⟨sibling, hsame⟩
      · rcases ready.clear.at_way hne hway with hnone | hdirectory
        · rw [hfile] at hnone
          cases hnone
        · rw [hfile] at hdirectory
          cases hdirectory
      · exact absurd (hreaches.location.trans hsame.symm) (off sibling)
  rw [location]
  exact (hreaches.mono hstays).read free hkept

namespace Independent

theorem publishable_before {middle : Host} (h : Independent first guest second other)
    (ready : Publishable first guest host binary)
    (overlays : Publish.Overlays first guest binary host.tree middle.tree) (later : Publishable second other middle bytes)
    (source : host.tree.read host.location other.path = .ok bytes) : Publishable second other host bytes := by
  refine ⟨ready.free, ⟨later.clear.plain, later.clear.fits, fun outer houter hne => ?_⟩, source, fun sibling => ?_⟩
  · have hway := later.clear.way outer houter hne
    rw [overlays] at hway
    cases hleaves : Publish.leaves first guest binary (outer.map Name.text) with
    | none =>
      rw [hleaves] at hway
      exact hway
    | some left =>
      rcases Publish.leaves_eq_some hleaves with ⟨hroot, hfirst, -⟩ | ⟨sibling, hsame⟩
      · exact ready.clear.at_way hroot hfirst
      · exact absurd (hsame ▸ houter.map Name.text) (h.sibling_off_way _ sibling)
  · have hopen := later.open_ sibling
    rw [overlays, h.leaves_sibling] at hopen
    exact hopen

/-- What a guest asks for is still there after another publication. -/
theorem publishable_after {between : Host} (h : Independent first guest second other)
    (ready : Publishable first guest host binary) (overlays : Publish.Overlays second other bytes host.tree between.tree)
    (free : between.tree.LinkFree) (source : between.tree.read between.location guest.path = .ok binary) :
    Publishable first guest between binary := by
  refine ⟨free, ⟨ready.clear.plain, ready.clear.fits, fun outer houter hne => ?_⟩, source, fun sibling => ?_⟩
  · rw [overlays]
    cases hleaves : Publish.leaves second other bytes (outer.map Name.text) with
    | none => exact ready.clear.way outer houter hne
    | some left => exact .inr (h.symm.leaves_way (houter.map Name.text) hleaves)
  · rw [overlays, h.symm.leaves_sibling]
    exact ready.open_ sibling

end Independent

/-- Two independent guests, each with a binary that is none of the files of the other, can be published in either order,
with the same reports and the same host in the end. -/
theorem publishGuest_commutes {middle : Host} {entry entry' : PublishedGuest} (plain : first.manifest.Plain)
    (plain' : second.manifest.Plain) (free : host.tree.LinkFree)
    (independent : Independent first guest second other)
    (reads : host.tree.read host.location guest.path = .ok binary)
    (reads' : host.tree.read host.location other.path = .ok bytes)
    (off : ∀ sibling,
      FileTree.spot host.location guest.path ≠ siblingAt second.publishDirectory.location other.path.stem sibling)
    (off' : ∀ sibling,
      FileTree.spot host.location other.path ≠ siblingAt first.publishDirectory.location guest.path.stem sibling)
    (h : Runs (publishGuest first guest) host (.ok entry) middle)
    (h' : Runs (publishGuest second other) middle (.ok entry') after) :
    ∃ between, Runs (publishGuest second other) host (.ok entry') between ∧
      Runs (publishGuest first guest) between (.ok entry) after := by
  obtain ⟨hready, hmiddle, hoverlays⟩ := publishGuest_overlays plain free reads h
  have hmiddleFree := (publishGuest_spares plain free h).1
  have hmiddleLocation : middle.location = host.location := by
    rw [hmiddle]
    rfl
  obtain ⟨hready', hafter, hoverlays'⟩ := publishGuest_overlays plain' hmiddleFree
    (hready.read_other hmiddleFree hoverlays hmiddleLocation reads' off') h'
  -- The second guest goes first.
  have hearly : Publishable second other host bytes := independent.publishable_before hready hoverlays hready' reads'
  obtain ⟨between, hbetween⟩ := run_publishGuest_elsewhere plain' hmiddleFree h' hmiddleLocation.symm hearly
  obtain ⟨-, hbetweenHost, hoverlaysEarly⟩ := publishGuest_overlays plain' free reads' hbetween
  have hbetweenFree := (publishGuest_spares plain' free hbetween).1
  have hbetweenLocation : between.location = host.location := by
    rw [hbetweenHost]
    rfl
  -- The first one follows it, and finds what it found before.
  have hsource := hearly.read_other hbetweenFree hoverlaysEarly hbetweenLocation reads off
  have hlate : Publishable first guest between binary :=
    independent.publishable_after hready hoverlaysEarly hbetweenFree hsource
  obtain ⟨last, hlast⟩ := run_publishGuest_elsewhere plain free h hbetweenLocation hlate
  obtain ⟨-, hlastHost, hoverlaysLate⟩ := publishGuest_overlays plain hbetweenFree hsource hlast
  have htree := independent.overlays_comm hoverlays hoverlays' hoverlaysEarly hoverlaysLate
  refine ⟨between, hbetween, ?_⟩
  rw [hafter, hmiddle, htree]
  rw [hlastHost, hbetweenHost] at hlast
  rw [hbetweenHost]
  exact hlast

end pairs

namespace Small

def neighbour : Package := { package with manifest := ⟨.root, [name "v" (by decide), manifestName]⟩ }

theorem independent_neighbour : Independent package guest neighbour guest :=
  ⟨.inr (by decide +kernel), by decide +kernel⟩

theorem binary_off_siblings (other : Package) (apart : binary.location.dropLast ≠ other.publishDirectory.location)
    (sibling : Sibling) :
    FileTree.spot stocked.location guest.path ≠ siblingAt other.publishDirectory.location guest.path.stem sibling := by
  intro hsame
  refine apart ?_
  rw [← FileTree.spot_plain (show binary.Plain by decide +kernel) stocked.location]
  change (FileTree.spot stocked.location guest.path).dropLast = _
  rw [hsame, siblingAt, List.dropLast_concat]

end Small

theorem publishGuest_commutes_small : ∃ middle after between,
    Runs (publishGuest Small.package Small.guest) Small.stocked (.ok (.of Small.package Small.guest)) middle ∧
    Runs (publishGuest Small.neighbour Small.guest) middle (.ok (.of Small.neighbour Small.guest)) after ∧
    Runs (publishGuest Small.neighbour Small.guest) Small.stocked (.ok (.of Small.neighbour Small.guest)) between ∧
    Runs (publishGuest Small.package Small.guest) between (.ok (.of Small.package Small.guest)) after := by
  have hfirst : Runs (publishGuest Small.package Small.guest) Small.stocked (.ok (.of Small.package Small.guest)) _ :=
    runs_of_toOption (by decide +kernel)
  have hsecond : Runs (publishGuest Small.neighbour Small.guest) _ (.ok (.of Small.neighbour Small.guest)) _ :=
    runs_of_toOption (show ((publishGuest Small.neighbour Small.guest).run.run
      ((publishGuest Small.package Small.guest).run.run Small.stocked).2).1.toOption = some _ by decide +kernel)
  have hreads : Small.stocked.tree.read Small.stocked.location Small.guest.path = .ok [7] := by decide +kernel
  obtain ⟨between, hbetween, hlast⟩ := publishGuest_commutes (by decide +kernel) (by decide +kernel)
    Small.linkFree_stocked Small.independent_neighbour hreads hreads
    (Small.binary_off_siblings Small.neighbour (by decide +kernel))
    (Small.binary_off_siblings Small.package (by decide +kernel)) hfirst hsecond
  exact ⟨_, _, between, hfirst, hsecond, hbetween, hlast⟩

end GuestForge
