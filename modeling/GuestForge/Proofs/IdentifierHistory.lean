import GuestForge.Proofs.PublishDirectories
import GuestForge.Proofs.Recipes
set_option autoImplicit false

/-!
# Identifier files in every history

A guest has one identifier file, for the user or for the kernel. The file of the other kind goes only after the new
one is written, and either step may fail; still no history of operations leaves both kinds for one stem, because a
removal fails only at a directory. What the invariant needs of a publication is the order in which siblings are
settled.
-/
namespace GuestForge

namespace FileTree

/-- No directory holds the identifiers of both kinds for one stem. -/
def Unpaired (tree : FileTree) : Prop :=
  ∀ directory stem user kernel, tree.get? (siblingAt directory stem (.id .user)) = some (.file user) →
    tree.get? (siblingAt directory stem (.id .kernel)) ≠ some (.file kernel)

/-- Identifier files that are new or changed have the length of a digest, and the legacy ones are not all zeros. -/
def Evolves (before after : FileTree) : Prop :=
  ∀ directory stem sibling bytes, sibling ≠ .elf →
    after.get? (siblingAt directory stem sibling) = some (.file bytes) →
    before.get? (siblingAt directory stem sibling) = some (.file bytes) ∨
      bytes.length = 32 ∧ (sibling = .legacy → bytes ≠ List.replicate 32 0)

def KeepsIdentifiers (before after : FileTree) : Prop :=
  ∀ directory stem sibling bytes, sibling ≠ .elf →
    after.get? (siblingAt directory stem sibling) = some (.file bytes) →
    before.get? (siblingAt directory stem sibling) = some (.file bytes)

theorem Evolves.refl (tree : FileTree) : tree.Evolves tree := fun _ _ _ _ _ hfile => .inl hfile

theorem Evolves.trans {before middle after : FileTree} (h : before.Evolves middle) (h' : middle.Evolves after) :
    before.Evolves after := by
  intro directory stem sibling bytes hsibling hfile
  rcases h' directory stem sibling bytes hsibling hfile with hmiddle | hbytes
  · exact h directory stem sibling bytes hsibling hmiddle
  · exact .inr hbytes

theorem KeepsIdentifiers.evolves {before after : FileTree} (h : before.KeepsIdentifiers after) :
    before.Evolves after :=
  fun directory stem sibling bytes hsibling hfile => .inl (h directory stem sibling bytes hsibling hfile)

theorem KeepsIdentifiers.unpaired {before after : FileTree} (h : before.KeepsIdentifiers after)
    (unpaired : before.Unpaired) : after.Unpaired := by
  intro directory stem user kernel huser hkernel
  have huser' := h directory stem (.id .user) user (by simp) huser
  exact unpaired directory stem user kernel huser' (h directory stem (.id .kernel) kernel (by simp) hkernel)

theorem Grows.keepsIdentifiers {created : Location → Prop} {before after : FileTree}
    (h : Grows created before after) : before.KeepsIdentifiers after := by
  intro directory stem sibling bytes _ hfile
  rcases h (siblingAt directory stem sibling) with hsame | ⟨-, -, hmade⟩
  · rwa [hsame] at hfile
  · rw [hmade] at hfile
    cases hfile

end FileTree

section siblings
variable {guest : BuiltGuest} {tree : FileTree} {directory : Location} {stem : String} {binary : List UInt8}
  {written : List Sibling}

theorem Digest.bytes_ne_zero {digest : Digest} (h : digest ≠ Digest.zero) : digest.bytes ≠ List.replicate 32 0 := by
  obtain ⟨bytes, hlength⟩ := digest
  rintro rfl
  exact h rfl

theorem content_identifier {sibling : Sibling} {bytes : List UInt8} (hsibling : sibling ≠ .elf)
    (h : guest.content binary sibling = some bytes) :
    bytes.length = 32 ∧ (sibling = .legacy → bytes ≠ List.replicate 32 0) := by
  cases sibling with
  | elf => exact absurd rfl hsibling
  | legacy =>
    by_cases hzero : guest.legacyId ≠ Digest.zero
    · have hbytes : some guest.legacyId.bytes = some bytes := (if_pos hzero).symm.trans h
      rw [← Option.some.inj hbytes]
      exact ⟨guest.legacyId.length_bytes, fun _ => Digest.bytes_ne_zero hzero⟩
    · have hbytes : none = some bytes := (if_neg hzero).symm.trans h
      cases hbytes
  | id context =>
    by_cases hcontext : context = guest.imageId.context
    · have hbytes : some guest.imageId.digest.bytes = some bytes := (if_pos hcontext).symm.trans h
      rw [← Option.some.inj hbytes]
      exact ⟨guest.imageId.digest.length_bytes, fun hlegacy => by cases hlegacy⟩
    · have hbytes : none = some bytes := (if_neg hcontext).symm.trans h
      cases hbytes

theorem get?_putSiblings_cases (tree : FileTree) (directory : Location) (stem : String)
    (content : Sibling → Option (List UInt8)) (written : List Sibling) (other : Location) (otherStem : String)
    (sibling : Sibling) :
    (tree.putSiblings directory stem content written).get? (siblingAt other otherStem sibling) =
        tree.get? (siblingAt other otherStem sibling) ∨
      other = directory ∧ otherStem = stem ∧ sibling ∈ written ∧
        (tree.putSiblings directory stem content written).get? (siblingAt other otherStem sibling) =
          (content sibling).map .file := by
  by_cases hwritten : other = directory ∧ otherStem = stem ∧ sibling ∈ written
  · obtain ⟨rfl, rfl, hsibling⟩ := hwritten
    exact .inr ⟨rfl, rfl, hsibling, FileTree.get?_putSiblings_of_mem tree written hsibling⟩
  · refine .inl (FileTree.get?_putSiblings_of_notMem tree written _ ?_)
    rintro own hown hsame
    obtain ⟨rfl, rfl, rfl⟩ := siblingAt_inj.1 hsame
    exact hwritten ⟨rfl, rfl, hown⟩

theorem evolves_putSiblings (tree : FileTree) (directory : Location) (stem : String) (guest : BuiltGuest)
    (binary : List UInt8) (written : List Sibling) :
    tree.Evolves (tree.putSiblings directory stem (guest.content binary) written) := by
  intro other otherStem sibling bytes hsibling hfile
  rcases get?_putSiblings_cases tree directory stem (guest.content binary) written other otherStem sibling with
    hsame | ⟨-, -, -, hsettled⟩
  · exact .inl (hsame ▸ hfile)
  · rw [hsettled, Option.map_eq_some_iff] at hfile
    obtain ⟨_, hcontent, hbytes⟩ := hfile
    cases hbytes
    exact .inr (content_identifier hsibling hcontent)

theorem unpaired_putSiblings (unpaired : tree.Unpaired)
    (h : (∀ context, .id context ∉ written) ∨ .id guest.imageId.context.other ∈ written ∨
      tree.get? (siblingAt directory stem (.id guest.imageId.context.other)) = some .directory) :
    (tree.putSiblings directory stem (guest.content binary) written).Unpaired := by
  have hother := guest.content_other binary
  intro other otherStem user kernel huser hkernel
  have hcases := get?_putSiblings_cases tree directory stem (guest.content binary) written other otherStem
  -- A file of the other kind is neither settled nor kept where it is settled or blocked.
  have hgone : (.id guest.imageId.context.other ∈ written ∨
      tree.get? (siblingAt directory stem (.id guest.imageId.context.other)) = some .directory) →
      other = directory → otherStem = stem → ∀ bytes,
      (tree.putSiblings directory stem (guest.content binary) written).get?
        (siblingAt other otherStem (.id guest.imageId.context.other)) ≠ some (.file bytes) := by
    rintro hremoved rfl rfl bytes hfile
    rcases hremoved with hmem | hblocked
    · rw [FileTree.get?_putSiblings_of_mem tree written hmem, hother] at hfile
      cases hfile
    · rcases hcases (.id guest.imageId.context.other) with hsame | ⟨-, -, -, hsettled⟩
      · rw [hsame, hblocked] at hfile
        cases hfile
      · rw [hsettled, hother] at hfile
        cases hfile
  have hboth : ∀ context, ∃ bytes, (tree.putSiblings directory stem (guest.content binary) written).get?
      (siblingAt other otherStem (.id context)) = some (.file bytes) := by
    rintro (_ | _)
    · exact ⟨user, huser⟩
    · exact ⟨kernel, hkernel⟩
  obtain ⟨bytes, hbytes⟩ := hboth guest.imageId.context.other
  have hkept : ∀ context, (tree.putSiblings directory stem (guest.content binary) written).get?
      (siblingAt other otherStem (.id context)) = tree.get? (siblingAt other otherStem (.id context)) := by
    intro context
    rcases hcases (.id context) with hsame | ⟨hdirectory, hstem, hmem, -⟩
    · exact hsame
    · rcases h with hnone | hremoved
      · exact absurd hmem (hnone context)
      · exact absurd hbytes (hgone hremoved hdirectory hstem bytes)
  rw [hkept] at huser hkernel
  exact unpaired other otherStem user kernel huser hkernel

/-- The order in which identifier files are settled meets the condition, wherever it breaks off. -/
theorem identifierOrder_breaks {written left : List Sibling}
    (horder : written ++ left = Publish.identifierOrder guest) :
    (∀ context, .id context ∉ written) ∨ .id guest.imageId.context.other ∈ written ∨
      left = [.id guest.imageId.context.other] := by
  unfold Publish.identifierOrder at horder
  rcases written with _ | ⟨first, _ | ⟨second, _ | ⟨third, rest⟩⟩⟩
  · exact .inl (by simp)
  · obtain ⟨rfl, -⟩ := List.cons.inj horder
    exact .inl (by simp)
  · obtain ⟨-, hrest⟩ := List.cons.inj horder
    exact .inr (.inr (List.cons.inj hrest).2)
  · obtain ⟨-, hrest⟩ := List.cons.inj horder
    obtain ⟨-, hrest⟩ := List.cons.inj hrest
    obtain ⟨rfl, -⟩ := List.cons.inj hrest
    exact .inr (.inl (by simp))

end siblings

section operations
variable {package : Package} {guest : BuiltGuest} {host after : Host}

/-- An operation on a tree without links makes no links, keeps kinds apart and writes proper identifiers only. -/
structure Proper (before after : Host) : Prop where
  linkFree : after.tree.LinkFree
  unpaired : after.tree.Unpaired
  evolves : before.tree.Evolves after.tree

theorem proper_putSiblings {made : FileTree} {directory : Location} {stem : String} {binary : List UInt8}
    {written : List Sibling} (free : host.tree.LinkFree) (unpaired : host.tree.Unpaired)
    {created : Location → Prop} (grows : FileTree.Grows created host.tree made)
    (h : (∀ context, .id context ∉ written) ∨ .id guest.imageId.context.other ∈ written ∨
      made.get? (siblingAt directory stem (.id guest.imageId.context.other)) = some .directory)
    (hafter : after = host.withTree (made.putSiblings directory stem (guest.content binary) written)) :
    Proper host after := by
  rw [hafter]
  refine ⟨(grows.linkFree free).putAll _, ?_, ?_⟩
  · exact unpaired_putSiblings (grows.keepsIdentifiers.unpaired unpaired) h
  · exact grows.keepsIdentifiers.evolves.trans (evolves_putSiblings made directory stem guest binary written)

theorem proper_identifiers {path : Path} (free : host.tree.LinkFree) (unpaired : host.tree.Unpaired)
    {answer : Except Fault (Option Path × Path)} (h : Runs (Publish.identifiers guest path) host answer after) :
    Proper host after := by
  have hunchanged : after = host → Proper host after := by
    rintro rfl
    exact ⟨free, unpaired, .refl _⟩
  by_cases hnames : path.names = []
  · exact hunchanged (Publish.identifiers_nameless hnames h).1
  by_cases hhouses : ∃ directory, host.Houses path directory
  · obtain ⟨directory, hhouses⟩ := hhouses
    obtain ⟨written, left, horder, -, hafter, hends⟩ :=
      Publish.identifiers_housed hnames hhouses (fun _ _ => free _) [] h
    have hgrows : FileTree.Grows (fun _ => False) host.tree host.tree := .refl _
    refine proper_putSiblings free unpaired hgrows ?_ hafter
    rcases identifierOrder_breaks horder with hnone | hmem | hleft
    · exact .inl hnone
    · exact .inr (.inl hmem)
    · rcases hends with ⟨hnil, -⟩ | ⟨sibling, rest, hcons, -, hblocked⟩
      · rw [hleft] at hnil
        cases hnil
      · rw [hleft] at hcons
        obtain ⟨rfl, -⟩ := List.cons.inj hcons
        exact .inr (.inr hblocked)
  · exact hunchanged (Publish.identifiers_nowhere hnames (not_exists.1 hhouses) h).1

theorem proper_publishGuest (free : host.tree.LinkFree) (unpaired : host.tree.Unpaired)
    {answer : Except Fault PublishedGuest} (h : Runs (publishGuest package guest) host answer after) :
    Proper host after := by
  obtain ⟨made, binary, written, left, hsettled, horder, hends⟩ := publishGuest_after free h
  refine proper_putSiblings free unpaired hsettled.grows ?_ hsettled.after
  cases written with
  | nil => exact .inl (by simp)
  | cons first rest =>
    obtain ⟨rfl, hidentifiers⟩ :=
      List.cons.inj (show first :: (rest ++ left) = .elf :: Publish.identifierOrder guest from horder)
    rcases identifierOrder_breaks hidentifiers with hnone | hmem | hleft
    · refine .inl fun context hmem => ?_
      rcases List.mem_cons.1 hmem with hself | hrest
      · cases hself
      · exact hnone context hrest
    · exact .inr (.inl (List.mem_cons_of_mem _ hmem))
    · rcases hends with ⟨hnil, -⟩ | ⟨sibling, others, hcons, -, hnone | hblocked⟩
      · rw [hleft] at hnil
        cases hnil
      · cases hnone
      · rw [hleft] at hcons
        obtain ⟨rfl, -⟩ := List.cons.inj hcons
        exact .inr (.inr hblocked)

structure Complete (guest : BuiltGuest) (directory : Location) (tree : FileTree) : Prop where
  elf : ∃ binary, tree.get? (siblingAt directory guest.path.stem .elf) = some (.file binary)
  own : tree.get? (siblingAt directory guest.path.stem (.id guest.imageId.context)) =
    some (.file guest.imageId.digest.bytes)
  other : tree.get? (siblingAt directory guest.path.stem (.id guest.imageId.context.other)) = none
  legacy : (∃ bytes, tree.get? (siblingAt directory guest.path.stem .legacy) = some (.file bytes)) ↔
    guest.legacyId ≠ Digest.zero

theorem complete_publishGuest (free : host.tree.LinkFree) {entry : PublishedGuest}
    (h : Runs (publishGuest package guest) host (.ok entry) after) :
    Complete guest (package.elfs host.location) after.tree := by
  obtain ⟨made, binary, hsettled, -⟩ := publishGuest_ok free h
  have hfile : ∀ sibling, after.tree.get? (siblingAt (package.elfs host.location) guest.path.stem sibling) =
      (guest.content binary sibling).map .file := by
    intro sibling
    rw [hsettled.after]
    exact FileTree.get?_putSiblings_of_mem made _ (mem_publicationOrder guest sibling)
  refine ⟨⟨binary, hfile .elf⟩, ?_, ?_, ?_⟩
  · rw [hfile, guest.content_own]
    rfl
  · rw [hfile, guest.content_other]
    rfl
  · rw [hfile]
    by_cases hzero : guest.legacyId = Digest.zero <;> simp [BuiltGuest.content, hzero]

def WritesNoIdentifiers (builder : Builder) : Prop :=
  ∀ package targetDirectory options, Keeps (fun before after => before.tree.LinkFree →
    after.tree.LinkFree ∧ before.tree.KeepsIdentifiers after.tree) (builder package targetDirectory options)

def Event.WritesNoIdentifiers : Event → Prop
  | .built builder _ _ => GuestForge.WritesNoIdentifiers builder
  | _ => True

theorem proper_of_happens {event : Event} (quiet : event.WritesNoIdentifiers) {before after : Session}
    (h : event.Happens before after) (free : before.host.tree.LinkFree) (unpaired : before.host.tree.Unpaired) :
    Proper before.host after.host := by
  cases event with
  | built builder request answer =>
    obtain ⟨result, hbuilds, -⟩ := (runs_buildGuests _).1 h
    obtain ⟨hfree, hkeeps⟩ := quiet _ _ _ _ _ _ hbuilds free
    exact ⟨hfree, hkeeps.unpaired unpaired, hkeeps.evolves⟩
  | published package guest answer => exact proper_publishGuest free unpaired (runs_onHost.1 h).1
  | identified guest path answer => exact proper_identifiers free unpaired (runs_onHost.1 h).1

end operations

/-- An operation that may be called any number of times, in any order. -/
inductive Operation where
  | publish (package : Package) (guest : BuiltGuest)
  | identify (guest : BuiltGuest) (path : Path)
  | bake (workspace : Workspace) (builder : Builder) (configuration : Configuration) (selection : Selection)
    (root : Option Path)

namespace Operation

def Takes : Operation → Session → List Event → Session → Prop
  | .publish package guest, before, events, after => ∃ answer,
    Runs (BakeM.onHost (publishGuest package guest)) before answer after ∧ events = [.published package guest answer]
  | .identify guest path, before, events, after => ∃ answer,
    Runs (BakeM.onHost (Publish.identifiers guest path)) before answer after ∧
      events = [.identified guest path answer]
  | .bake workspace builder configuration selection root, before, events, after => ∃ answer outcome,
    Runs (GuestForge.bake workspace builder configuration selection root) before answer after ∧
      Course (workspace.plan builder configuration root before.host) (workspace.guests selection) outcome events ∧
      answer = outcome.map workspace.result ∧ Trace before events after

def WritesNoIdentifiers : Operation → Prop
  | .bake _ builder _ _ _ => GuestForge.WritesNoIdentifiers builder
  | _ => True

theorem exists_takes (operation : Operation) (before : Session) :
    ∃ events after, operation.Takes before events after := by
  cases operation with
  | publish package guest =>
    obtain ⟨answer, after, h⟩ := Runs.exists (BakeM.onHost (publishGuest package guest)) before
    exact ⟨_, after, answer, h, rfl⟩
  | identify guest path =>
    obtain ⟨answer, after, h⟩ := Runs.exists (BakeM.onHost (Publish.identifiers guest path)) before
    exact ⟨_, after, answer, h, rfl⟩
  | bake workspace builder configuration selection root =>
    obtain ⟨answer, after, h⟩ := Runs.exists (GuestForge.bake workspace builder configuration selection root) before
    obtain ⟨outcome, events, hcourse, hanswer, htrace⟩ := runs_bake.1 h
    exact ⟨events, after, answer, outcome, h, hcourse, hanswer, htrace⟩

theorem Takes.trace {operation : Operation} {before after : Session} {events : List Event}
    (h : operation.Takes before events after) : Trace before events after := by
  cases operation with
  | publish package guest =>
    obtain ⟨answer, hruns, rfl⟩ := h
    exact trace_singleton.2 hruns
  | identify guest path =>
    obtain ⟨answer, hruns, rfl⟩ := h
    exact trace_singleton.2 hruns
  | bake workspace builder configuration selection root =>
    obtain ⟨answer, outcome, -, -, -, htrace⟩ := h
    exact htrace

theorem Takes.writesNoIdentifiers {operation : Operation} {before after : Session} {events : List Event}
    (h : operation.Takes before events after) (quiet : operation.WritesNoIdentifiers) :
    ∀ event ∈ events, event.WritesNoIdentifiers := by
  intro event hevent
  cases operation with
  | publish package guest =>
    obtain ⟨answer, -, rfl⟩ := h
    rw [List.mem_singleton.1 hevent]
    trivial
  | identify guest path =>
    obtain ⟨answer, -, rfl⟩ := h
    rw [List.mem_singleton.1 hevent]
    trivial
  | bake workspace builder configuration selection root =>
    obtain ⟨answer, outcome, -, hcourse, -, -⟩ := h
    have hmakes := hcourse.makes hevent
    cases event with
    | built other request answer =>
      obtain rfl : other = builder := hmakes
      exact quiet
    | published package guest answer => trivial
    | identified guest path answer => trivial

end Operation

inductive History : Session → List Operation → List Event → Session → Prop where
  | nil (session : Session) : History session [] [] session
  | cons {before middle after : Session} {operation : Operation} {operations : List Operation}
      {first events : List Event} (takes : operation.Takes before first middle)
      (rest : History middle operations events after) :
      History before (operation :: operations) (first ++ events) after

section history
variable {before after : Session} {operations : List Operation} {events : List Event}

theorem exists_history (operations : List Operation) (before : Session) :
    ∃ events after, History before operations events after := by
  induction operations generalizing before with
  | nil => exact ⟨[], before, .nil before⟩
  | cons operation rest ih =>
    obtain ⟨first, middle, htakes⟩ := operation.exists_takes before
    obtain ⟨events, after, hrest⟩ := ih middle
    exact ⟨first ++ events, after, .cons htakes hrest⟩

theorem History.trace (h : History before operations events after) : Trace before events after := by
  induction h with
  | nil session => exact .nil session
  | cons takes rest ih => exact trace_append.2 ⟨_, takes.trace, ih⟩

theorem History.writesNoIdentifiers (h : History before operations events after)
    (quiet : ∀ operation ∈ operations, operation.WritesNoIdentifiers) :
    ∀ event ∈ events, event.WritesNoIdentifiers := by
  induction h with
  | nil session => simp
  | cons takes rest ih =>
    intro event hevent
    rcases List.mem_append.1 hevent with hfirst | hrest
    · exact takes.writesNoIdentifiers (quiet _ List.mem_cons_self) event hfirst
    · exact ih (fun operation hoperation => quiet operation (List.mem_cons_of_mem _ hoperation)) event hrest

theorem Trace.proper (h : Trace before events after) (quiet : ∀ event ∈ events, event.WritesNoIdentifiers)
    (free : before.host.tree.LinkFree) (unpaired : before.host.tree.Unpaired) : Proper before.host after.host := by
  apply h.invariant (fun session => Proper before.host session.host)
  · intro event hevent s t happens hs
    obtain ⟨hfree, hunpaired, hevolves⟩ := proper_of_happens (quiet event hevent) happens hs.linkFree hs.unpaired
    exact ⟨hfree, hunpaired, hs.evolves.trans hevolves⟩
  · exact ⟨free, unpaired, .refl _⟩

/-- In every history kinds stay apart, event by event; identifier files that come up or change have the length of a
digest, and the legacy ones are not all zeros; and each successful publication leaves the files of its guest
complete. -/
theorem history_keeps_identifiers (free : before.host.tree.LinkFree) (unpaired : before.host.tree.Unpaired)
    (quiet : ∀ operation ∈ operations, operation.WritesNoIdentifiers) (h : History before operations events after) :
    after.host.tree.Unpaired ∧ before.host.tree.Evolves after.host.tree ∧
      ∀ earlier event later, events = earlier ++ event :: later →
        ∃ start middle, Trace before earlier start ∧ event.Happens start middle ∧ Trace middle later after ∧
          middle.host.tree.Unpaired ∧ start.host.tree.Evolves middle.host.tree ∧
          ∀ package guest entry, event = .published package guest (.ok entry) →
            Complete guest (package.elfs start.host.location) middle.host.tree := by
  have hquiet := h.writesNoIdentifiers quiet
  obtain ⟨-, hunpaired, hevolves⟩ := h.trace.proper hquiet free unpaired
  refine ⟨hunpaired, hevolves, ?_⟩
  rintro earlier event later rfl
  obtain ⟨start, middle, hearlier, hevent, hlater⟩ := trace_split h.trace
  have hstart := hearlier.proper (fun other hother => hquiet other (List.mem_append_left _ hother)) free unpaired
  have hmiddle := proper_of_happens (hquiet event (List.mem_append_right _ List.mem_cons_self)) hevent
    hstart.linkFree hstart.unpaired
  refine ⟨start, middle, hearlier, hevent, hlater, hmiddle.unpaired, hmiddle.evolves, ?_⟩
  rintro package guest entry rfl
  exact complete_publishGuest hstart.linkFree (runs_onHost.1 hevent).1

theorem Small.writesNoIdentifiers : WritesNoIdentifiers Small.builder := by
  intro _ _ _ before answer after hruns free
  have houtside : ∀ step ∈ Small.recipe.steps, ∀ current location, step.Touches current location →
      ¬ ∃ directory stem sibling, location = siblingAt directory stem sibling := by
    rintro step hstep current _ htouches ⟨directory, stem, sibling, rfl⟩
    have hmember := (Small.isPrefix_of_step hstep htouches).subset (List.mem_append_right directory List.mem_cons_self)
    have hshort : ∀ text ∈ Small.binary.location, text.toList.length < 4 := by decide +kernel
    have hlength := hshort _ hmember
    rw [String.toList_append, List.length_append, Sibling.extension_length] at hlength
    omega
  obtain ⟨hfree, hsame⟩ := Recipe.keeps_follow houtside _ _ _ hruns free
  exact ⟨hfree, fun directory stem sibling bytes _ hfile => hsame _ ⟨directory, stem, sibling, rfl⟩ ▸ hfile⟩

theorem Small.unpaired : Small.host.tree.Unpaired := by
  intro directory stem user kernel _ hkernel
  have hleft : ["w", "elfs", "b.uid"] = siblingAt ["w", "elfs"] "b" (.id .user) := by decide +kernel
  simp only [Small.host, FileTree.get?_set, FileTree.get?_empty, hleft, siblingAt_inj] at hkernel
  split at hkernel
  · rename_i hsame
    cases hsame.2.2
  · repeat' split at hkernel
    all_goals cases hkernel

theorem history_keeps_identifiers_small : ∃ operations events after,
    operations = [.bake Small.workspace Small.builder {} {} none, .publish Small.package Small.guest,
      .identify Small.guest Small.binary] ∧
    History ⟨Small.host, []⟩ operations events after ∧ after.host.tree.Unpaired ∧
      Small.host.tree.Evolves after.host.tree := by
  obtain ⟨events, after, h⟩ := exists_history [.bake Small.workspace Small.builder {} {} none,
    .publish Small.package Small.guest, .identify Small.guest Small.binary] ⟨Small.host, []⟩
  obtain ⟨hunpaired, hevolves, -⟩ := history_keeps_identifiers Small.linkFree Small.unpaired (by
    rintro operation hoperation
    rcases List.mem_cons.1 hoperation with rfl | hoperation
    · exact Small.writesNoIdentifiers
    · rcases List.mem_cons.1 hoperation with rfl | hoperation
      · trivial
      · rw [List.mem_singleton.1 hoperation]
        trivial) h
  exact ⟨_, events, after, rfl, h, hunpaired, hevolves⟩

end history

end GuestForge
