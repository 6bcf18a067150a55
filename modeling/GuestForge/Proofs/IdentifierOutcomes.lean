import GuestForge.Proofs.Failures
set_option autoImplicit false

/-!
# When identifier files can be written

The identifier files of a guest can be brought about exactly when the directory above them is there and none of the
three is a directory itself. There may be links on the way to that directory, but the files themselves are none.
Afterwards the files hold what the guest says, those that do not apply are gone, and everything else is as it was.
-/
namespace GuestForge
open HostM Publish

/-- The names of the siblings of a path, and their paths, are within the limits of the file system. -/
def Path.SiblingsFit (path : Path) : Prop :=
  ∀ sibling, (path.extended sibling.extension).text.utf8ByteSize ≤ 255 ∧
    (path.beside sibling).toString.utf8ByteSize < 4096

def Host.Unlinked (host : Host) (path : Path) : Prop :=
  ∀ sibling, sibling ≠ .elf → ∀ location target,
    host.tree.walk host.location .stay (path.beside sibling) ≠ .ok (.entry location (.link target))

/-- A directory is above a path, and none of the identifier files is one. -/
structure Host.Receives (host : Host) (path : Path) : Prop where
  parent : ∃ directory, host.tree.status host.location path.parent = .ok (directory, .directory)
  open_ : ∀ sibling, sibling ≠ .elf → ∀ location,
    host.tree.status host.location (path.beside sibling) ≠ .ok (location, .directory)

def Host.Holds (host : Host) (path : Path) : Option (List UInt8) → Prop
  | some bytes => host.tree.read host.location path = .ok bytes
  | none => ∃ directory name, host.tree.walk host.location .stay path = .ok (.vacant directory name)

/-- The identifier files beside a path were brought about, and nothing else happened to the host. -/
structure Identified (guest : BuiltGuest) (path : Path) (before after : Host) : Prop where
  own : after.Holds (path.beside (.id guest.imageId.context)) (some guest.imageId.digest.bytes)
  other : after.Holds (path.beside (.id guest.imageId.context.other)) none
  legacy : after.Holds (path.beside .legacy) (if guest.legacyId ≠ Digest.zero then some guest.legacyId.bytes else none)
  host : after = before.withTree after.tree
  frame : ∃ directory, before.tree.status before.location path.parent = .ok (directory, .directory) ∧
    ∀ location, (∀ sibling, sibling ≠ .elf → siblingAt directory path.stem sibling ≠ location) →
      after.tree.get? location = before.tree.get? location

section outcomes
variable {host after : Host} {path : Path} {directory : Location} {guest : BuiltGuest} {sibling : Sibling}

theorem mem_identifierOrder : sibling ∈ identifierOrder guest ↔ sibling ≠ .elf := by
  constructor
  · rintro h rfl
    exact elf_notMem_identifierOrder guest h
  · exact (List.mem_cons.1 (mem_publicationOrder guest sibling)).resolve_left

theorem Host.Houses.fit (h : host.Houses path directory) : path.SiblingsFit := by
  refine fun sibling => ⟨?_, h.short sibling⟩
  rw [Path.utf8ByteSize_extended]
  exact h.fits

theorem Host.houses_of_fit (clean : ¬ path.HasNul) (fit : path.SiblingsFit)
    (parent : host.tree.status host.location path.parent = .ok (directory, .directory)) :
    host.Houses path directory := by
  have hfits := (fit .elf).1
  rw [Path.utf8ByteSize_extended] at hfits
  exact ⟨fun _ hnul => clean (Path.hasNul_of_beside hnul), fun sibling => (fit sibling).2, hfits,
    FileTree.status_iff.1 parent⟩

theorem Host.Houses.unlinked (h : host.Houses path directory) (unlinked : host.Unlinked path)
    (hsibling : sibling ≠ .elf) (target : String) :
    host.tree.get? (siblingAt directory path.stem sibling) ≠ some (.link target) := by
  intro hlink
  have hwalk : host.tree.walk host.location .stay (path.beside sibling) = _ := h.walk (.inl rfl)
  rw [siblingAt_eq] at hlink
  rw [FileTree.at?, hlink] at hwalk
  exact unlinked sibling hsibling _ target hwalk

theorem Host.Houses.directory_iff (h : host.Houses path directory) (unlinked : host.Unlinked path)
    (hsibling : sibling ≠ .elf) :
    host.tree.get? (siblingAt directory path.stem sibling) = some .directory ↔
      ∃ location, host.tree.status host.location (path.beside sibling) = .ok (location, .directory) := by
  rw [(h.finds (h.unlinked unlinked hsibling)).finds.status, siblingAt_eq]
  cases host.tree.get? (directory ++ [(path.extended sibling.extension).text]) <;> simp

theorem Host.Finds.holds {name : Name} (h : host.Finds path directory name) {content : Option (List UInt8)}
    (there : host.tree.get? (directory ++ [name.text]) = content.map .file) : host.Holds path content := by
  cases content with
  | some bytes => exact h.finds.read there
  | none =>
    have hwalk := h.finds.walk .stay
    rw [FileTree.at?, there] at hwalk
    exact ⟨_, _, hwalk⟩

theorem Host.Houses.identified (h : host.Houses path directory) (unlinked : host.Unlinked path)
    (open_ : ∀ sibling ∈ identifierOrder guest,
      host.tree.get? (siblingAt directory path.stem sibling) ≠ some .directory)
    (hafter : after = settled host path directory (guest.content []) (identifierOrder guest)) :
    Identified guest path host after := by
  have hhouses : after.Houses path directory := by
    rw [hafter]
    refine houses_settled _ h open_ fun sibling hmem => ?_
    exact h.unlinked unlinked (mem_identifierOrder.1 hmem)
  have hget : ∀ sibling, sibling ≠ .elf →
      after.tree.get? (siblingAt directory path.stem sibling) = (guest.content [] sibling).map .file := by
    intro sibling hsibling
    rw [hafter]
    exact FileTree.get?_putSiblings_of_mem host.tree _ (mem_identifierOrder.2 hsibling)
  have hholds : ∀ sibling, sibling ≠ .elf → after.Holds (path.beside sibling) (guest.content [] sibling) := by
    intro sibling hsibling
    refine (hhouses.finds fun target => ?_).holds (hget sibling hsibling)
    rw [hget sibling hsibling]
    cases guest.content [] sibling <;> simp
  refine ⟨?_, ?_, hholds .legacy (by simp), ?_, directory, FileTree.status_iff.2 h.parent, ?_⟩
  · rw [← guest.content_own []]
    exact hholds _ (by simp)
  · rw [← guest.content_other []]
    exact hholds _ (by simp)
  · rw [hafter]
    rfl
  · intro location hlocation
    rw [hafter]
    exact FileTree.get?_putSiblings_of_notMem host.tree _ location fun sibling hmem =>
      hlocation sibling (mem_identifierOrder.1 hmem)

theorem identifiers_answers (named : path.names ≠ []) (clean : ¬ path.HasNul) (unlinked : host.Unlinked path)
    {answer : Except Fault (Option Path × Path)} (h : Runs (identifiers guest path) host answer after) :
    (path.SiblingsFit ∧ host.Receives path ∧
      answer = .ok (legacyPath guest path, path.beside (.id guest.imageId.context)) ∧
      Identified guest path host after) ∨
    (¬ (path.SiblingsFit ∧ host.Receives path) ∧ ∃ fault, answer = .error fault) := by
  by_cases hhouses : ∃ directory, host.Houses path directory
  · obtain ⟨directory, hhouses⟩ := hhouses
    obtain ⟨written, left, horder, hopen, hafter, hends⟩ := identifiers_housed named hhouses
      (fun sibling hmem => hhouses.unlinked unlinked (mem_identifierOrder.1 hmem)) [] h
    rcases hends with ⟨rfl, hanswer⟩ | ⟨sibling, rest, rfl, hfails, hblocked⟩
    · rw [List.append_nil] at horder
      rw [horder] at hopen hafter
      refine .inl ⟨hhouses.fit, ⟨⟨directory, FileTree.status_iff.2 hhouses.parent⟩, ?_⟩, hanswer,
        hhouses.identified unlinked hopen hafter⟩
      intro sibling hsibling location hstatus
      exact hopen sibling (mem_identifierOrder.2 hsibling) ((hhouses.directory_iff unlinked hsibling).2 ⟨_, hstatus⟩)
    · refine .inr ⟨fun hreceives => ?_, hfails⟩
      have hsibling : sibling ≠ .elf := mem_identifierOrder.1 (horder ▸ List.mem_append_right _ List.mem_cons_self)
      obtain ⟨location, hstatus⟩ := (hhouses.directory_iff unlinked hsibling).1 hblocked
      exact hreceives.2.open_ sibling hsibling location hstatus
  · refine .inr ⟨?_, (identifiers_nowhere named (not_exists.1 hhouses) h).2⟩
    rintro ⟨hfit, ⟨directory, hparent⟩, -⟩
    exact hhouses ⟨directory, Host.houses_of_fit clean hfit hparent⟩

/-- With names within the limits, writing the identifier files goes through exactly where a directory is above them and
none of them is one, and fails with a file system error elsewhere. When it goes through it reports the file of the
legacy identifier, if that applies, and the file of the image identifier by its context, and has brought them about. -/
theorem identifiers_exact (named : path.names ≠ []) (clean : ¬ path.HasNul) (unlinked : host.Unlinked path)
    {answer : Except Fault (Option Path × Path)} (h : Runs (identifiers guest path) host answer after) :
    ((∃ written, answer = .ok written) ↔ path.SiblingsFit ∧ host.Receives path) ∧
    (∀ fault, answer = .error fault → ∃ cause subject, fault = .bake (.filesystem cause subject)) ∧
    ∀ legacy written, answer = .ok (legacy, written) →
      legacy = (if guest.legacyId ≠ Digest.zero then some (path.beside .legacy) else none) ∧
      written = path.beside (.id guest.imageId.context) ∧ Identified guest path host after := by
  have hfaults : ∀ fault, answer = .error fault → ∃ cause subject, fault = .bake (.filesystem cause subject) := by
    rintro fault rfl
    cases raises_identifiers clean named guest _ _ _ h <;> exact ⟨_, _, rfl⟩
  rcases identifiers_answers named clean unlinked h with ⟨hfit, hreceives, hanswer, hidentified⟩ | ⟨hneither, hfails⟩
  · refine ⟨⟨fun _ => ⟨hfit, hreceives⟩, fun _ => ⟨_, hanswer⟩⟩, hfaults, fun legacy written hok => ?_⟩
    rw [hanswer] at hok
    obtain ⟨rfl, rfl⟩ := Prod.mk.inj (Except.ok.inj hok)
    exact ⟨rfl, rfl, hidentified⟩
  · obtain ⟨fault, rfl⟩ := hfails
    refine ⟨⟨fun hok => ?_, fun hboth => absurd hboth hneither⟩, hfaults, fun legacy written hok => ?_⟩
    · obtain ⟨written, hok⟩ := hok
      cases hok
    · cases hok

end outcomes

namespace Small

def linked : Host := { host with tree := (FileTree.empty.set ["d"] .directory).set ["l"] (.link "d") }

def behind : Path := ⟨.root, [name "l" (by decide), name "b.bin" (by decide)]⟩

theorem unlinked_behind : linked.Unlinked behind := by
  intro sibling hsibling location target hwalk
  have hvacant : ∀ context, linked.tree.walk linked.location .stay (behind.beside (.id context)) =
      .ok (.vacant ["d"] (behind.extended (Sibling.id context).extension).text) := by
    rintro (_ | _) <;> decide +kernel
  have hlegacy : linked.tree.walk linked.location .stay (behind.beside .legacy) = .ok (.vacant ["d"] "b.iid") := by
    decide +kernel
  cases sibling with
  | elf => exact hsibling rfl
  | legacy =>
    rw [hlegacy] at hwalk
    cases hwalk
  | id context =>
    rw [hvacant] at hwalk
    cases hwalk

end Small

theorem identifiers_exact_small : Small.behind.names ≠ [] ∧ ¬ Small.behind.HasNul ∧
    Small.linked.Unlinked Small.behind ∧ ∃ after,
      Runs (identifiers Small.guest Small.behind) Small.linked
        (.ok (some (Small.behind.beside .legacy), Small.behind.beside (.id .kernel))) after ∧
      Identified Small.guest Small.behind Small.linked after := by
  have hnamed : Small.behind.names ≠ [] := by decide
  have hclean : ¬ Small.behind.HasNul := by decide +kernel
  have hruns : Runs (identifiers Small.guest Small.behind) Small.linked
      (.ok (some (Small.behind.beside .legacy), Small.behind.beside (.id .kernel))) _ :=
    runs_of_toOption (by decide +kernel)
  obtain ⟨-, -, hidentified⟩ := identifiers_exact hnamed hclean Small.unlinked_behind hruns
  exact ⟨hnamed, hclean, Small.unlinked_behind, _, hruns, (hidentified _ _ rfl).2.2⟩

end GuestForge
