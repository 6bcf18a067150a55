import GuestForge.Proofs.IdentifierFiles
import GuestForge.Proofs.MadeDirectories
set_option autoImplicit false

/-!
# Publishing a guest

However publishing ends, it has made directories on the way to the publish directory and then settled siblings
of the published binary in a fixed order, up to the first that was blocked. It succeeds if all were settled.
-/
namespace GuestForge
open HostM

def elfsName : Name := ⟨"elfs", by decide⟩

theorem Package.publishDirectory_eq (package : Package) :
    package.publishDirectory = ⟨package.manifest.anchor, package.manifest.names.dropLast ++ [elfsName]⟩ := by
  have helfs : Path.ofString "elfs" = ⟨.relative, [elfsName]⟩ := Path.ofString_text elfsName
  rw [publishDirectory, directory, helfs]
  rfl

namespace Publish
variable {directory : Path} {guest : BuiltGuest}

theorem base_eq {outer : List Name} {name : Name} (h : guest.path.names = outer ++ [name]) :
    base directory guest = ⟨directory.anchor, directory.names ++ [name]⟩ := by
  have hfile : guest.path.fileName = name.text := by
    rw [Path.fileName, Path.name?, h, List.getLast?_concat]
    rfl
  rw [base, hfile, Path.ofString_text]
  rfl

theorem base_nameless (h : guest.path.names = []) : base directory guest = directory := by
  have hfile : guest.path.fileName = "" := by
    rw [Path.fileName, Path.name?, h]
    rfl
  have hempty : Path.ofString "" = ⟨.relative, []⟩ := rfl
  rw [base, hfile, hempty]
  simp [Path.join]

theorem stem_base (directory : Path) (h : guest.path.names ≠ []) : (base directory guest).stem = guest.path.stem := by
  obtain ⟨outer, name, hnames⟩ := (List.eq_nil_or_concat guest.path.names).resolve_left h
  rw [List.concat_eq_append] at hnames
  rw [base_eq hnames, Path.stem, Path.stem, Path.fileName, Path.fileName, Path.name?, Path.name?, hnames,
    List.getLast?_concat, List.getLast?_concat]

theorem names_base (h : directory.names ≠ []) : (base directory guest).names ≠ [] := by
  rcases List.eq_nil_or_concat guest.path.names with hnil | ⟨outer, name, hnames⟩
  · rwa [base_nameless hnil]
  · rw [base_eq (hnames.trans (List.concat_eq_append ..))]
    simp

theorem parent_base (directory : Path) (guest : BuiltGuest) : (base directory guest).parent.anchor = directory.anchor ∧
    (base directory guest).parent.names <+: directory.names := by
  rcases List.eq_nil_or_concat guest.path.names with hnil | ⟨outer, name, hnames⟩
  · rw [base_nameless hnil]
    exact ⟨rfl, List.dropLast_prefix _⟩
  · rw [base_eq (hnames.trans (List.concat_eq_append ..)), Path.parent, List.dropLast_concat]
    exact ⟨rfl, List.prefix_rfl⟩

theorem parent_base_eq (h : guest.path.names ≠ []) : (base directory guest).parent = directory := by
  obtain ⟨outer, name, hnames⟩ := (List.eq_nil_or_concat guest.path.names).resolve_left h
  rw [base_eq (hnames.trans (List.concat_eq_append ..)), Path.parent, List.dropLast_concat]

end Publish

def PublishedGuest.of (package : Package) (guest : BuiltGuest) : PublishedGuest :=
  let base := Publish.base package.publishDirectory guest
  ⟨package.name, base.beside .elf, guest.imageId, base.beside (.id guest.imageId.context),
    Publish.legacyPath guest base⟩

def publicationOrder (guest : BuiltGuest) : List Sibling := .elf :: Publish.identifierOrder guest

theorem mem_publicationOrder (guest : BuiltGuest) (sibling : Sibling) : sibling ∈ publicationOrder guest := by
  unfold publicationOrder Publish.identifierOrder
  rcases sibling with _ | _ | ⟨_ | _⟩ <;> cases guest.imageId.context <;> decide

namespace Publish
variable {host after : Host} {directory : Path} {guest : BuiltGuest}

theorem elf_eq (h : directory.names ≠ []) (guest : BuiltGuest) :
    elf guest directory = (do
      orElse (makeDirectories (base directory guest).parent) fun error =>
        fail (.bake (.filesystem (.createDirectory (base directory guest).parent error) (base directory guest).parent))
      orElse (copyFile guest.path ((base directory guest).beside .elf)) fun error =>
        fail (.bake (.filesystem (.copy guest.path ((base directory guest).beside .elf) error)
          ((base directory guest).beside .elf)))
      pure ((base directory guest).beside .elf)) := by
  have htarget : (base directory guest).withExtension ".elf" = .ok ((base directory guest).beside .elf) :=
    Path.withExtension_eq_ok (names_base h) Sibling.elf.extension
  unfold elf sibling
  rw [htarget]
  simp only [ofValue, pure_bind, Path.parent_beside]

theorem keeps_makeBaseParent {current : Location} {handle : SystemError → HostM Unit}
    (quiet : ∀ error, Quiet (handle error)) :
    Keeps (Host.Grows current (FileTree.Passes current directory))
      (orElse (makeDirectories (base directory guest).parent) handle) := by
  have hmakes : Keeps (Host.Grows current (FileTree.Passes current directory))
      (makeDirectories (base directory guest).parent) := by
    intro before answer after hruns hlocation free
    obtain ⟨hafter, hgrows⟩ := keeps_makeDirectories _ _ _ _ hruns hlocation free
    refine ⟨hafter, hgrows.mono ?_⟩
    rintro location ⟨names, hnames, rfl⟩
    obtain ⟨hanchor, hparent⟩ := parent_base directory guest
    exact ⟨names, hnames.trans hparent, by rw [hanchor]⟩
  exact keeps_orElse grows_trans grows_refl hmakes fun error => grows_of_quiet (quiet error)

theorem elf_after (free : host.tree.LinkFree) (hnames : directory.names ≠ []) {answer : Except Fault Path}
    (h : Runs (elf guest directory) host answer after) :
    ∃ made, FileTree.Grows (FileTree.Passes host.location directory) host.tree made ∧
      ((∃ fault, answer = .error fault) ∧ after = host.withTree made ∨
        answer = .ok ((base directory guest).beside .elf) ∧
        Runs (makeDirectories (base directory guest).parent) host (.ok ()) (host.withTree made) ∧
        Runs (copyFile guest.path ((base directory guest).beside .elf)) (host.withTree made) (.ok ()) after) := by
  rw [elf_eq hnames] at h
  rcases runs_bind.1 h with ⟨_, middle, hmakes, hrest⟩ | ⟨fault, hmakes, rfl⟩
  · obtain ⟨hmiddle, hgrows⟩ := keeps_makeBaseParent (fun error => Quiet.fail _) _ _ _ hmakes rfl free
    rw [hmiddle] at hmakes hrest
    refine ⟨middle.tree, hgrows, ?_⟩
    rcases runs_bind.1 hrest with ⟨_, last, hcopy, hpure⟩ | ⟨fault, hcopy, rfl⟩
    · obtain ⟨rfl, rfl⟩ := runs_pure.1 hpure
      exact .inr ⟨rfl, runs_orElse_fail_ok.1 hmakes, runs_orElse_fail_ok.1 hcopy⟩
    · refine .inl ⟨⟨fault, rfl⟩, ?_⟩
      rcases runs_orElse_fail_error.1 hcopy with ⟨hcopy, -⟩ | ⟨error, hcopy, -⟩
      · exact copyFile_error hcopy
      · exact copyFile_error hcopy
  · obtain ⟨hafter, hgrows⟩ := keeps_makeBaseParent (fun error => Quiet.fail _) _ _ _ hmakes rfl free
    exact ⟨after.tree, hgrows, .inl ⟨⟨fault, rfl⟩, hafter⟩⟩

/-- A copy succeeds only onto another file. -/
theorem copyFile_apart {source target : Path} {origin location : Location} {originName name : Name}
    {bytes : List UInt8} (free : host.tree.LinkFree) (hsource : host.Reaches source origin originName)
    (file : host.tree.get? (origin ++ [originName.text]) = some (.file bytes))
    (htarget : host.Reaches target location name) (h : Runs (copyFile source target) host (.ok ()) after) :
    origin ++ [originName.text] ≠ location ++ [name.text] := by
  intro hsame
  have horigin := (hsource.finds free).finds.status
  have hdestination := (htarget.finds free).finds.status
  rw [← hsame] at hdestination
  rw [file] at horigin hdestination
  exact (copyFile_ok h).1 ⟨_, horigin, hdestination⟩

end Publish

def Package.elfs (package : Package) (current : Location) : Location :=
  FileTree.spot current package.publishDirectory

theorem Host.Beside.location {host : Host} {path : Path} {directory : Location} (h : host.Beside path directory) :
    directory = FileTree.spot host.location path.parent := by
  obtain ⟨outer, hnames, hdirectory⟩ := (h .elf).reaches.names
  obtain ⟨rfl, -⟩ := List.append_inj' (show path.names.dropLast ++ [path.extended _] = _ from hnames) rfl
  exact FileTree.stroll_directory hdirectory

variable {package : Package} {guest : BuiltGuest} {host after : Host} {made : FileTree} {binary : List UInt8}

structure Settled (package : Package) (guest : BuiltGuest) (host : Host) (made : FileTree) (binary : List UInt8)
    (written : List Sibling) (after : Host) : Prop where
  grows : FileTree.Grows (FileTree.Passes host.location package.publishDirectory) host.tree made
  open_ : ∀ sibling ∈ written,
    made.get? (siblingAt (package.elfs host.location) guest.path.stem sibling) ≠ some .directory
  after : after = host.withTree
    (made.putSiblings (package.elfs host.location) guest.path.stem (guest.content binary) written)

/-- The binary of a guest can be read, and its siblings are within reach. -/
structure Ready (package : Package) (guest : BuiltGuest) (host : Host) (binary : List UInt8) : Prop where
  source : ∃ origin name, host.Reaches guest.path origin name ∧
    host.tree.get? (origin ++ [name.text]) = some (.file binary)
  beside : host.Beside (Publish.base package.publishDirectory guest) (package.elfs host.location)
  apart : FileTree.spot host.location guest.path ≠ siblingAt (package.elfs host.location) guest.path.stem .elf

theorem names_publishDirectory (package : Package) : package.publishDirectory.names ≠ [] := by
  rw [package.publishDirectory_eq]
  simp

theorem Ready.named (h : Ready package guest host binary) : guest.path.names ≠ [] := by
  obtain ⟨origin, name, hreaches, -⟩ := h.source
  obtain ⟨outer, hnames, -⟩ := hreaches.reaches.names
  rw [hnames]
  simp

theorem Ready.mono {other : Host} {bytes : List UInt8} (h : Ready package guest host binary)
    (location : other.location = host.location)
    (stay : ∀ location, host.tree.get? location = some .directory → other.tree.get? location = some .directory)
    (source : other.tree.get? (FileTree.spot host.location guest.path) = some (.file bytes)) :
    Ready package guest other bytes := by
  obtain ⟨origin, name, hreaches, -⟩ := h.source
  rw [hreaches.reaches.location] at source
  refine ⟨⟨origin, name, hreaches.mono location stay, source⟩, ?_, ?_⟩
  · rw [location]
    exact h.beside.mono location stay
  · rw [location]
    exact h.apart

theorem ready_of_copy (free : host.tree.LinkFree)
    (h : Runs (copyFile guest.path ((Publish.base package.publishDirectory guest).beside .elf)) host (.ok ()) after) :
    ∃ binary, Ready package guest host binary ∧
      host.tree.get? (siblingAt (package.elfs host.location) guest.path.stem .elf) ≠ some .directory ∧
      after = host.withTree
        (host.tree.put (siblingAt (package.elfs host.location) guest.path.stem .elf) (some binary)) := by
  obtain ⟨-, binary, hread, hwrite⟩ := copyFile_ok h
  obtain ⟨-, origin, originName, hsource, hfile⟩ := readFile_ok free hread
  obtain ⟨directory, name, htarget, hopen, hafter⟩ := writeFile_ok free hwrite
  obtain ⟨hbeside, hlocation⟩ := htarget.beside
  have hnamed : guest.path.names ≠ [] := by
    obtain ⟨outer, hnames, -⟩ := hsource.reaches.names
    rw [hnames]
    simp
  have hdirectory : directory = package.elfs host.location := by
    rw [hbeside.location, Publish.parent_base_eq hnamed, Package.elfs]
  have hapart := Publish.copyFile_apart free hsource hfile htarget h
  rw [hlocation, Publish.stem_base _ hnamed, hdirectory] at hopen hafter hapart
  rw [← hsource.reaches.location] at hapart
  rw [hdirectory] at hbeside
  exact ⟨binary, ⟨⟨origin, originName, hsource, hfile⟩, hbeside, hapart⟩, hopen, hafter⟩

theorem elf_notMem_identifierOrder (guest : BuiltGuest) : Sibling.elf ∉ Publish.identifierOrder guest := by
  simp [Publish.identifierOrder]

theorem settled_elf {directory : Location} {path : Path} {content : Sibling → Option (List UInt8)}
    (hcontent : content .elf = some binary) (written : List Sibling) :
    Publish.settled (host.withTree (host.tree.put (siblingAt directory path.stem .elf) (some binary))) path
        directory content written =
      host.withTree (host.tree.putSiblings directory path.stem content (.elf :: written)) := by
  unfold Publish.settled FileTree.putSiblings siblingChanges
  rw [List.map_cons, hcontent]
  rfl

theorem publishGuest_eq (package : Package) (guest : BuiltGuest) :
    publishGuest package guest = (do
      let elfPath ← Publish.elf guest package.publishDirectory
      let written ← Publish.identifiers guest (Publish.base package.publishDirectory guest)
      pure ⟨package.name, elfPath, guest.imageId, written.2, written.1⟩) := rfl

theorem identifiers_of_ready (free : host.tree.LinkFree) (ready : Ready package guest host binary)
    (open_ : host.tree.get? (siblingAt (package.elfs host.location) guest.path.stem .elf) ≠ some .directory)
    {answer : Except Fault (Option Path × Path)}
    (h : Runs (Publish.identifiers guest (Publish.base package.publishDirectory guest))
      (host.withTree (host.tree.put (siblingAt (package.elfs host.location) guest.path.stem .elf) (some binary)))
      answer after) :
    ∃ written left, written ++ left = Publish.identifierOrder guest ∧
      (∀ sibling ∈ written,
        host.tree.get? (siblingAt (package.elfs host.location) guest.path.stem sibling) ≠ some .directory) ∧
      after = host.withTree (host.tree.putSiblings (package.elfs host.location) guest.path.stem
        (guest.content binary) (.elf :: written)) ∧
      (left = [] ∧ answer = .ok (Publish.legacyPath guest (Publish.base package.publishDirectory guest),
          (Publish.base package.publishDirectory guest).beside (.id guest.imageId.context)) ∨
        ∃ sibling rest, left = sibling :: rest ∧ (∃ fault, answer = .error fault) ∧
          host.tree.get? (siblingAt (package.elfs host.location) guest.path.stem sibling) = some .directory) := by
  have hfree := free.put (siblingAt (package.elfs host.location) guest.path.stem .elf) (some binary)
  have hbeside : (host.withTree
      (host.tree.put (siblingAt (package.elfs host.location) guest.path.stem .elf) (some binary))).Beside
      (Publish.base package.publishDirectory guest) (package.elfs host.location) :=
    ready.beside.mono rfl fun _ => FileTree.directory_put open_
  have hget : ∀ sibling ∈ Publish.identifierOrder guest,
      (host.tree.put (siblingAt (package.elfs host.location) guest.path.stem .elf) (some binary)).get?
          (siblingAt (package.elfs host.location) guest.path.stem sibling) =
        host.tree.get? (siblingAt (package.elfs host.location) guest.path.stem sibling) := by
    intro sibling hsibling
    rw [FileTree.get?_put, if_neg]
    intro hsame
    rw [← (siblingAt_inj.1 hsame).2.2] at hsibling
    exact elf_notMem_identifierOrder guest hsibling
  obtain ⟨written, left, horder, hopen, hafter, hends⟩ := Publish.identifiers_housed
    (Publish.names_base (names_publishDirectory package)) (hbeside.houses hfree) (fun _ _ => hfree _) binary h
  rw [Publish.stem_base _ ready.named] at hopen hends
  refine ⟨written, left, horder, ?_, ?_, ?_⟩
  · intro sibling hsibling
    rw [← hget sibling (horder ▸ List.mem_append_left _ hsibling)]
    exact hopen sibling hsibling
  · rw [hafter, ← Publish.stem_base package.publishDirectory ready.named]
    exact settled_elf rfl written
  · rcases hends with hall | ⟨sibling, rest, rfl, hfails, hblocked⟩
    · exact .inl hall
    · refine .inr ⟨sibling, rest, rfl, hfails, ?_⟩
      rw [← hget sibling (horder ▸ List.mem_append_right _ List.mem_cons_self)]
      exact hblocked

/-- However a publication ends, siblings are settled in order up to the first that is blocked. -/
theorem publishGuest_after (free : host.tree.LinkFree) {answer : Except Fault PublishedGuest}
    (h : Runs (publishGuest package guest) host answer after) :
    ∃ made binary written left, Settled package guest host made binary written after ∧
      written ++ left = publicationOrder guest ∧
      (left = [] ∧ answer = .ok (.of package guest) ∧ Ready package guest (host.withTree made) binary ∧
          Runs (makeDirectories package.publishDirectory) host (.ok ()) (host.withTree made) ∨
        ∃ sibling rest, left = sibling :: rest ∧ (∃ fault, answer = .error fault) ∧ (written = [] ∨
          made.get? (siblingAt (package.elfs host.location) guest.path.stem sibling) = some .directory)) := by
  rw [publishGuest_eq] at h
  rcases runs_bind.1 h with ⟨elfPath, middle, helf, hrest⟩ | ⟨fault, helf, rfl⟩
  · obtain ⟨made, hgrows, ⟨⟨fault, hfails⟩, -⟩ | ⟨hanswer, hmakes, hcopy⟩⟩ :=
      Publish.elf_after free (names_publishDirectory package) helf
    · cases hfails
    · cases hanswer
      have hfree : (host.withTree made).tree.LinkFree := hgrows.linkFree free
      obtain ⟨binary, hready, hopen, rfl⟩ := ready_of_copy hfree hcopy
      rw [Publish.parent_base_eq hready.named] at hmakes
      rcases runs_bind.1 hrest with ⟨written, last, hidentifiers, hpure⟩ | ⟨fault, hidentifiers, rfl⟩
      · obtain ⟨written, left, horder, hall, rfl, ⟨rfl, hanswer⟩ | ⟨-, -, -, ⟨fault, hfails⟩, -⟩⟩ :=
          identifiers_of_ready hfree hready hopen hidentifiers
        · cases hanswer
          obtain ⟨rfl, rfl⟩ := runs_pure.1 hpure
          refine ⟨made, binary, .elf :: written, [], ⟨hgrows, ?_, rfl⟩, ?_, .inl ⟨rfl, rfl, hready, hmakes⟩⟩
          · exact List.forall_mem_cons.2 ⟨hopen, hall⟩
          · rw [publicationOrder, ← horder]
            rfl
        · cases hfails
      · obtain ⟨written, left, horder, hall, rfl, ⟨-, hanswer⟩ | ⟨sibling, rest, rfl, -, hblocked⟩⟩ :=
          identifiers_of_ready hfree hready hopen hidentifiers
        · cases hanswer
        · refine ⟨made, binary, .elf :: written, sibling :: rest, ⟨hgrows, ?_, rfl⟩, ?_,
            .inr ⟨sibling, rest, rfl, ⟨fault, rfl⟩, .inr hblocked⟩⟩
          · exact List.forall_mem_cons.2 ⟨hopen, hall⟩
          · rw [publicationOrder, ← horder]
            rfl
  · obtain ⟨made, hgrows, ⟨-, hafter⟩ | ⟨hanswer, -⟩⟩ :=
      Publish.elf_after free (names_publishDirectory package) helf
    · refine ⟨made, [], [], publicationOrder guest, ⟨hgrows, ?_, hafter⟩, rfl,
        .inr ⟨.elf, _, rfl, ⟨fault, rfl⟩, .inl rfl⟩⟩
      simp
    · cases hanswer

theorem publishGuest_ok (free : host.tree.LinkFree) {entry : PublishedGuest}
    (h : Runs (publishGuest package guest) host (.ok entry) after) :
    ∃ made binary, Settled package guest host made binary (publicationOrder guest) after ∧
      entry = .of package guest ∧ Ready package guest (host.withTree made) binary ∧
      Runs (makeDirectories package.publishDirectory) host (.ok ()) (host.withTree made) := by
  obtain ⟨made, binary, written, left, hsettled, horder, ⟨rfl, hanswer, hready, hmakes⟩ |
    ⟨-, -, -, ⟨fault, hfails⟩, -⟩⟩ := publishGuest_after free h
  · rw [List.append_nil] at horder
    rw [horder] at hsettled
    exact ⟨made, binary, hsettled, Except.ok.inj hanswer, hready, hmakes⟩
  · cases hfails

/-- A guest that is ready once its publish directory is made is published unless a directory is in the way. -/
theorem run_publishGuest {before : Host} (free : host.tree.LinkFree) (ready : Ready package guest host binary)
    (makes : Runs (makeDirectories package.publishDirectory) before (.ok ()) host)
    (open_ : ∀ sibling,
      host.tree.get? (siblingAt (package.elfs host.location) guest.path.stem sibling) ≠ some .directory) :
    Runs (publishGuest package guest) before (.ok (.of package guest)) (host.withTree
      (host.tree.putSiblings (package.elfs host.location) guest.path.stem (guest.content binary)
        (publicationOrder guest))) := by
  have hcopy : Runs (copyFile guest.path ((Publish.base package.publishDirectory guest).beside .elf)) host (.ok ())
      (host.withTree (host.tree.put (siblingAt (package.elfs host.location) guest.path.stem .elf) (some binary))) := by
    obtain ⟨origin, name, hsource, hfile⟩ := ready.source
    have hlocation := (ready.beside .elf).beside.2
    rw [Publish.stem_base _ ready.named] at hlocation
    rw [← hlocation]
    apply run_copyFile (hsource.finds free) hfile ((ready.beside .elf).finds free)
    · rw [hlocation]
      exact open_ .elf
    · rw [hlocation, ← hsource.reaches.location]
      exact ready.apart
  have helf : Runs (Publish.elf guest package.publishDirectory) before
      (.ok ((Publish.base package.publishDirectory guest).beside .elf))
      (host.withTree (host.tree.put (siblingAt (package.elfs host.location) guest.path.stem .elf) (some binary))) := by
    rw [Publish.elf_eq (names_publishDirectory package), Publish.parent_base_eq ready.named]
    refine runs_bind_ok.2 ⟨(), host, runs_orElse_ok.2 (.inl makes), runs_bind_ok.2 ⟨(), _, ?_, runs_pure.2 ⟨rfl, rfl⟩⟩⟩
    exact runs_orElse_ok.2 (.inl hcopy)
  obtain ⟨answer, after, hidentifiers⟩ :=
    Runs.exists (Publish.identifiers guest (Publish.base package.publishDirectory guest))
      (host.withTree (host.tree.put (siblingAt (package.elfs host.location) guest.path.stem .elf) (some binary)))
  obtain ⟨written, left, horder, -, rfl, ⟨rfl, rfl⟩ | ⟨sibling, -, -, -, hblocked⟩⟩ :=
    identifiers_of_ready free ready (open_ .elf) hidentifiers
  · rw [List.append_nil] at horder
    rw [publishGuest_eq, publicationOrder, ← horder]
    exact runs_bind_ok.2 ⟨_, _, helf, runs_bind_ok.2 ⟨_, _, hidentifiers, runs_pure.2 ⟨rfl, rfl⟩⟩⟩
  · exact absurd hblocked (open_ sibling)

end GuestForge
