import GuestForge.Proofs.IdentifierOutcomes
set_option autoImplicit false

/-!
# Where a failed publication stops

A publication is a list of effects, each about one path: a directory is made, the binary is copied, and the identifier
files are written or removed. Whatever the tree holds, links included, it stops at the first effect that the system
refuses. Those before it are complete, that one has written and removed nothing, and those behind it have no part in it.
-/
namespace GuestForge
open HostM Publish

def settleFile (path : Path) : Option (List UInt8) → HostM Unit
  | some bytes => writeFile path bytes
  | none => do if ← pathExists path then unlink path

def settleCause (path : Path) : Option (List UInt8) → SystemError → FileCause
  | some _ => .write path
  | none => .remove path

/-- What a publication does to one path: it makes the directory of the files, or brings about one of them. -/
inductive Effect where
  | directory
  | file (sibling : Sibling)
  deriving DecidableEq

def effectOrder (guest : BuiltGuest) : List Effect := .directory :: (publicationOrder guest).map .file

namespace Effect
variable (package : Package) (guest : BuiltGuest)

def path : Effect → Path
  | .directory => (base package.publishDirectory guest).parent
  | .file sibling => (base package.publishDirectory guest).beside sibling

def act (effect : Effect) : HostM Unit :=
  match effect with
  | .directory => makeDirectories (effect.path package guest)
  | .file .elf => copyFile guest.path (effect.path package guest)
  | .file sibling => settleFile (effect.path package guest) (guest.content [] sibling)

def cause (effect : Effect) : SystemError → FileCause :=
  match effect with
  | .directory => .createDirectory (effect.path package guest)
  | .file .elf => .copy guest.path (effect.path package guest)
  | .file sibling => settleCause (effect.path package guest) (guest.content [] sibling)

def perform (effect : Effect) : HostM Unit :=
  orElse (effect.act package guest) fun error =>
    fail (.bake (.filesystem (effect.cause package guest error) (effect.path package guest)))

/-- What an effect has come to when it is complete: the directory is there and nothing but directories was added, or the
path of the file can be read with the bytes that it is to have, or it leads nowhere. -/
def Complete (effect : Effect) (before after : Host) : Prop :=
  match effect with
  | .directory => before.Extends after ∧
      ∃ location, after.tree.status after.location (effect.path package guest) = .ok (location, .directory)
  | .file .elf => ∃ bytes, before.tree.read before.location guest.path = .ok bytes ∧
      after.tree.read after.location (effect.path package guest) = .ok bytes
  | .file sibling => match guest.content [] sibling with
    | some bytes => after.tree.read after.location (effect.path package guest) = .ok bytes
    | none => ∀ found, after.tree.status after.location (effect.path package guest) ≠ .ok found

end Effect

inductive Performed (package : Package) (guest : BuiltGuest) : Host → List Effect → Host → Prop where
  | nil (host : Host) : Performed package guest host [] host
  | cons {before middle after : Host} {effect : Effect} {effects : List Effect}
      (runs : Runs (effect.act package guest) before (.ok ()) middle)
      (complete : effect.Complete package guest before middle) (rest : Performed package guest middle effects after) :
      Performed package guest before (effect :: effects) after

/-- A publication that halts at an effect: those before it led to `middle`, where the system refused it. -/
structure HaltsAt (package : Package) (guest : BuiltGuest) (host : Host) (done : List Effect) (effect : Effect)
    (middle : Host) (error : SystemError) (fault : Fault) (after : Host) : Prop where
  performed : Performed package guest host done middle
  refused : Runs (effect.act package guest) middle (.error (.system error)) after
  fault : fault = .bake (.filesystem (effect.cause package guest error) (effect.path package guest))
  unchanged : effect ≠ .directory → after = middle
  grown : middle.Extends after

/-- The binary is missing or no file, or it is the target itself. -/
def BuiltGuest.Unusable (guest : BuiltGuest) (target : Path) (host : Host) : Prop :=
  (∀ bytes, host.tree.read host.location guest.path ≠ .ok bytes) ∨ host.SameEntry guest.path target

section files
variable {host after : Host} {path : Path} {content : Option (List UInt8)}

theorem settleFile_error {fault : Fault} (h : Runs (settleFile path content) host (.error fault) after) :
    after = host := by
  cases content with
  | some bytes => exact writeFile_error h
  | none =>
    rcases runs_bind_error.1 h with hexists | ⟨found, middle, hexists, hrest⟩
    · exact quiet_pathExists _ _ _ hexists
    · obtain rfl := quiet_pathExists _ _ _ hexists
      split at hrest
      · exact unlink_error hrest
      · exact (runs_pure.1 hrest).2

theorem refuses_settleFile (clean : ¬ path.HasNul) : Refuses (settleFile path content) := by
  cases content with
  | some bytes => exact refuses_writeFile clean bytes
  | none =>
    refine Raises.bind (refuses_pathExists clean) fun found => ?_
    exact Raises.ite (fun _ => refuses_setTree clean _) fun _ => Raises.pure _

theorem removed (clean : ¬ path.HasNul) (h : Runs (settleFile path none) host (.ok ()) after)
    (found : Location × Entry) : after.tree.status after.location path ≠ .ok found := by
  obtain ⟨exists_, middle, hexists, hrest⟩ := runs_bind_ok.1 h
  obtain rfl := quiet_pathExists _ _ _ hexists
  split at hrest
  · obtain ⟨-, location, entry, hwalk, hopen, rfl⟩ := unlink_found hrest
    exact FileTree.status_erase hwalk hopen found
  · obtain ⟨-, rfl⟩ := runs_pure.1 hrest
    rename_i hno
    intro hstatus
    have hyes : Runs (pathExists path) after (.ok true) after :=
      runs_bind_ok.2 ⟨_, after, run_entry_of_status clean hstatus, runs_pure.2 ⟨rfl, rfl⟩⟩
    exact hno (Except.ok.inj (hexists.unique hyes).1)

theorem copyFile_unusable {guest : BuiltGuest} {target : Path} (clean : ¬ guest.path.HasNul)
    (cleanTarget : ¬ target.HasNul) (unusable : guest.Unusable target host) :
    ∃ error, Runs (copyFile guest.path target) host (.error (.system error)) host := by
  obtain ⟨answer, after, hruns⟩ := Runs.exists (copyFile guest.path target) host
  cases answer with
  | error fault =>
    obtain ⟨error, rfl⟩ := refuses_copyFile cleanTarget clean _ _ _ hruns
    exact ⟨error, copyFile_error hruns ▸ hruns⟩
  | ok _ =>
    obtain ⟨hother, bytes, hread, -⟩ := copyFile_ok hruns
    rcases unusable with hunread | hsame
    · exact absurd (runs_ask_ok.1 hread).2.1 (hunread bytes)
    · exact absurd hsame hother

end files

namespace Effect
variable {package : Package} {guest : BuiltGuest} {effect : Effect} {host after : Host}

theorem path_directory (package : Package) (guest : BuiltGuest) : Effect.directory.path package guest =
    if guest.path.names = [] then package.directory else package.publishDirectory := by
  change (base package.publishDirectory guest).parent = _
  by_cases hnil : guest.path.names = []
  · rw [if_pos hnil, base_nameless hnil, package.publishDirectory_eq, Path.parent, List.dropLast_concat]
    rfl
  · rw [if_neg hnil, parent_base_eq hnil]

theorem hasNul_path (h : (effect.path package guest).HasNul) : package.directory.HasNul ∨ guest.path.HasNul := by
  cases effect with
  | directory => exact .inl ((hasNul_parent_base package guest).1 h)
  | file sibling =>
    exact (hasNul_of_base (Path.hasNul_of_beside h)).imp_left package.hasNul_publishDirectory.1

theorem refuses_act (clean : ¬ package.directory.HasNul) (cleanSource : ¬ guest.path.HasNul) :
    Refuses (effect.act package guest) := by
  have hpath : ¬ (effect.path package guest).HasNul := fun h => (hasNul_path h).elim clean cleanSource
  cases effect with
  | directory => exact refuses_makeDirectories hpath
  | file sibling =>
    cases sibling with
    | elf => exact refuses_copyFile hpath cleanSource
    | legacy => exact refuses_settleFile hpath
    | id context => exact refuses_settleFile hpath

theorem act_error {fault : Fault} (h : Runs (effect.act package guest) host (.error fault) after) :
    (effect ≠ .directory → after = host) ∧ host.Extends after := by
  have hunchanged : after = host → (effect ≠ .directory → after = host) ∧ host.Extends after := by
    rintro rfl
    exact ⟨fun _ => rfl, extends_refl after⟩
  cases effect with
  | directory => exact ⟨fun hne => absurd rfl hne, extends_makeDirectories _ _ _ _ h⟩
  | file sibling =>
    apply hunchanged
    cases sibling with
    | elf => exact copyFile_error h
    | legacy => exact settleFile_error h
    | id context => exact settleFile_error h

theorem complete_of_settleFile {sibling : Sibling} (clean : ¬ (Effect.path package guest (.file sibling)).HasNul)
    (h : Runs (settleFile (Effect.path package guest (.file sibling)) (guest.content [] sibling)) host (.ok ()) after) :
    match guest.content [] sibling with
    | some bytes => after.tree.read after.location (Effect.path package guest (.file sibling)) = .ok bytes
    | none => ∀ found, after.tree.status after.location (Effect.path package guest (.file sibling)) ≠ .ok found := by
  cases hcontent : guest.content [] sibling with
  | some bytes =>
    rw [hcontent] at h
    exact writeFile_reads h
  | none =>
    rw [hcontent] at h
    exact removed clean h

theorem complete (clean : ¬ package.directory.HasNul) (cleanSource : ¬ guest.path.HasNul)
    (h : Runs (effect.act package guest) host (.ok ()) after) : effect.Complete package guest host after := by
  have hpath : ¬ (effect.path package guest).HasNul := fun h => (hasNul_path h).elim clean cleanSource
  cases effect with
  | directory => exact ⟨extends_makeDirectories _ _ _ _ h, (makeDirectories_there h).2⟩
  | file sibling =>
    cases sibling with
    | elf =>
      obtain ⟨-, bytes, hread, hwrite⟩ := copyFile_ok h
      exact ⟨bytes, (runs_ask_ok.1 hread).2.1, writeFile_reads hwrite⟩
    | legacy => exact complete_of_settleFile hpath h
    | id context => exact complete_of_settleFile hpath h

end Effect

section publication
variable {package : Package} {guest : BuiltGuest} {host after : Host}

theorem publishGuest_effects (package : Package) (guest : BuiltGuest) : publishGuest package guest = (do
    (effectOrder guest).forM (Effect.perform package guest)
    pure (.of package guest)) := by
  have hlegacy : legacyFile guest (base package.publishDirectory guest) = (do
      Effect.perform package guest (.file .legacy)
      pure (legacyPath guest (base package.publishDirectory guest))) := by
    unfold legacyFile legacyPath Effect.perform Effect.act Effect.cause BuiltGuest.content
    split
    · simp only [writeDigest, map_eq_pure_bind, bind_assoc, pure_bind]
      rfl
    · rfl
  have hown : writeDigest ((base package.publishDirectory guest).beside (.id guest.imageId.context))
      guest.imageId.digest = (do
        Effect.perform package guest (.file (.id guest.imageId.context))
        pure ((base package.publishDirectory guest).beside (.id guest.imageId.context))) := by
    simp only [Effect.perform, Effect.act, Effect.cause, guest.content_own []]
    rfl
  have hother : removeStale ((base package.publishDirectory guest).beside (.id guest.imageId.context.other)) =
      Effect.perform package guest (.file (.id guest.imageId.context.other)) := by
    simp only [Effect.perform, Effect.act, Effect.cause, guest.content_other []]
    rfl
  have hnames := names_publishDirectory package
  rw [publishGuest_eq, elf_eq hnames, identifiers_eq (names_base hnames), hlegacy, hown, hother]
  simp only [effectOrder, publicationOrder, identifierOrder, List.map_cons, List.map_nil, List.forM_eq_forM,
    List.forM_cons, List.forM_nil, bind_assoc, pure_bind]
  rfl

theorem performed_of_runs (clean : ¬ package.directory.HasNul) (cleanSource : ¬ guest.path.HasNul)
    {effects : List Effect} (h : Runs (effects.forM (Effect.perform package guest)) host (.ok ()) after) :
    Performed package guest host effects after := by
  induction effects generalizing host with
  | nil =>
    obtain ⟨-, rfl⟩ := runs_pure.1 h
    exact .nil after
  | cons effect rest ih =>
    rw [runs_forM_cons] at h
    obtain ⟨_, middle, hfirst, hrest⟩ := runs_bind_ok.1 h
    have hact := runs_orElse_fail_ok.1 hfirst
    exact .cons hact (Effect.complete clean cleanSource hact) (ih hrest)

theorem publishGuest_performed (clean : ¬ package.directory.HasNul) (cleanSource : ¬ guest.path.HasNul)
    {entry : PublishedGuest} (h : Runs (publishGuest package guest) host (.ok entry) after) :
    entry = .of package guest ∧ Performed package guest host (effectOrder guest) after := by
  rw [publishGuest_effects] at h
  obtain ⟨_, middle, hruns, hpure⟩ := runs_bind_ok.1 h
  obtain ⟨hanswer, rfl⟩ := runs_pure.1 hpure
  exact ⟨Except.ok.inj hanswer, performed_of_runs clean cleanSource hruns⟩

theorem publishGuest_haltsAt (clean : ¬ package.directory.HasNul) (cleanSource : ¬ guest.path.HasNul)
    {fault : Fault} (h : Runs (publishGuest package guest) host (.error fault) after) :
    ∃ done effect rest middle error, effectOrder guest = done ++ effect :: rest ∧
      HaltsAt package guest host done effect middle error fault after := by
  rw [publishGuest_effects] at h
  rcases runs_bind_error.1 h with hruns | ⟨_, middle, -, hpure⟩
  · obtain ⟨done, effect, rest, middle, horder, hdone, hfails⟩ := runs_forM_error.1 hruns
    rcases runs_orElse_fail_error.1 hfails with ⟨hact, hother⟩ | ⟨error, hact, hfault⟩
    · obtain ⟨error, rfl⟩ := Effect.refuses_act clean cleanSource _ _ _ hact
      exact absurd rfl (hother error)
    · obtain ⟨hunchanged, hgrown⟩ := Effect.act_error hact
      exact ⟨done, effect, rest, middle, error, horder,
        performed_of_runs clean cleanSource hdone, hact, hfault, hunchanged, hgrown⟩
  · cases (runs_pure.1 hpure).1

/-- Where the directory is there, a binary that cannot be copied leaves everything as it was. -/
theorem publishGuest_unusable (clean : ¬ package.directory.HasNul) (cleanSource : ¬ guest.path.HasNul)
    {location : Location} (unusable : guest.Unusable (Effect.path package guest (.file .elf)) host)
    (there : host.tree.status host.location (Effect.directory.path package guest) = .ok (location, .directory))
    {answer : Except Fault PublishedGuest} (h : Runs (publishGuest package guest) host answer after) :
    after = host ∧ ∃ error, answer = .error (.bake (.filesystem
      (Effect.cause package guest (.file .elf) error) (Effect.path package guest (.file .elf)))) := by
  have hclean : ∀ effect : Effect, ¬ (effect.path package guest).HasNul := fun effect h =>
    (Effect.hasNul_path h).elim clean cleanSource
  obtain ⟨error, hcopy⟩ := copyFile_unusable cleanSource (hclean (.file .elf)) unusable
  have hmakes : Runs (Effect.directory.act package guest) host (.ok ()) host :=
    run_makeDirectories_there (hclean .directory) there
  have hfails : Runs (publishGuest package guest) host (.error (.bake (.filesystem
      (Effect.cause package guest (.file .elf) error) (Effect.path package guest (.file .elf))))) host := by
    rw [publishGuest_effects]
    refine runs_bind_error.2 (.inl (runs_forM_error.2 ⟨[.directory], .file .elf, _, host, rfl, ?_, ?_⟩))
    · exact runs_bind_ok.2 ⟨(), host, runs_orElse_fail_ok.2 hmakes, runs_pure.2 ⟨rfl, rfl⟩⟩
    · exact runs_orElse_fail_error.2 (.inr ⟨error, hcopy, rfl⟩)
  obtain ⟨rfl, rfl⟩ := hfails.unique h
  exact ⟨rfl, error, rfl⟩

theorem directory_of_read {sibling : Sibling} {bytes : List UInt8}
    (h : host.tree.read host.location (Effect.path package guest (.file sibling)) = .ok bytes) :
    ∃ location, host.tree.status host.location (Effect.directory.path package guest) = .ok (location, .directory) := by
  obtain ⟨location, hstatus⟩ := FileTree.read_iff.1 h
  obtain ⟨directory, hparent, -⟩ :=
    FileTree.walk_parent rfl (Path.extended_ne_up _ sibling) (FileTree.status_iff.1 hstatus)
  change host.tree.walk host.location .follow ((base package.publishDirectory guest).beside sibling).parent = _
    at hparent
  rw [Path.parent_beside] at hparent
  exact ⟨directory, FileTree.status_iff.2 hparent⟩

/-- A publication performs its effects in order, the first in the publish directory, or above it for a path without a
last name. If it fails, then at one effect: with a file system error about its path, with the effects before it complete,
and with nothing changed by it or behind it but for directories that are added. A binary that is missing, no file or the
target itself leaves everything as it was where the directory is there, and so every file that was published. -/
theorem publishGuest_stops_cleanly (clean : ¬ package.directory.HasNul) (cleanSource : ¬ guest.path.HasNul)
    {answer : Except Fault PublishedGuest} (h : Runs (publishGuest package guest) host answer after) :
    (Effect.directory.path package guest =
      if guest.path.names = [] then package.directory else package.publishDirectory) ∧
    (∀ entry, answer = .ok entry → entry = .of package guest ∧ Performed package guest host (effectOrder guest) after) ∧
    (∀ fault, answer = .error fault → ∃ done effect rest middle error, effectOrder guest = done ++ effect :: rest ∧
      HaltsAt package guest host done effect middle error fault after) ∧
    (guest.Unusable (Effect.path package guest (.file .elf)) host →
      (∀ location, host.tree.status host.location (Effect.directory.path package guest) = .ok (location, .directory) →
        after = host ∧ ∃ error, answer = .error (.bake (.filesystem
          (.copy guest.path (Effect.path package guest (.file .elf)) error) (Effect.path package guest (.file .elf))))) ∧
      ∀ sibling bytes, host.tree.read host.location (Effect.path package guest (.file sibling)) = .ok bytes →
        after.tree.read after.location (Effect.path package guest (.file sibling)) = .ok bytes) := by
  refine ⟨Effect.path_directory package guest, ?_, ?_, fun unusable => ⟨fun location there => ?_, ?_⟩⟩
  · rintro entry rfl
    exact publishGuest_performed clean cleanSource h
  · rintro fault rfl
    exact publishGuest_haltsAt clean cleanSource h
  · exact publishGuest_unusable clean cleanSource unusable there h
  · intro sibling bytes hread
    obtain ⟨location, there⟩ := directory_of_read hread
    rw [(publishGuest_unusable clean cleanSource unusable there h).1]
    exact hread

end publication

namespace Small

theorem unusable_guest (target : Path) : guest.Unusable target host := by
  have hread : host.tree.read host.location guest.path = .error .noEntry := by decide +kernel
  exact .inl fun bytes => by simp [hread]

def nameless : BuiltGuest := { guest with path := ⟨.relative, []⟩ }

theorem unusable_nameless (target : Path) : nameless.Unusable target fresh := by
  have hread : fresh.tree.read fresh.location nameless.path = .error .isDirectory := by decide +kernel
  exact .inl fun bytes => by simp [hread]

end Small

theorem publishGuest_stops_cleanly_small : ∃ done effect rest middle error fault,
    Runs (publishGuest Small.package Small.guest) Small.host (.error fault) Small.host ∧
    effectOrder Small.guest = done ++ effect :: rest ∧
    HaltsAt Small.package Small.guest Small.host done effect middle error fault Small.host := by
  obtain ⟨answer, after, hruns⟩ := Runs.exists (publishGuest Small.package Small.guest) Small.host
  have there : Small.host.tree.status Small.host.location (Effect.directory.path Small.package Small.guest) =
      .ok (["w", "elfs"], .directory) := by decide +kernel
  obtain ⟨-, -, hstops, hkeeps⟩ := publishGuest_stops_cleanly (by decide +kernel) (by decide +kernel) hruns
  obtain ⟨rfl, _, rfl⟩ := (hkeeps (Small.unusable_guest _)).1 _ there
  obtain ⟨done, effect, rest, middle, error, horder, hstop⟩ := hstops _ rfl
  exact ⟨done, effect, rest, middle, error, _, hruns, horder, hstop⟩

/-- A path without a last name makes the files of the guest stand beside the publish directory, which is not made: what
fails first is the copy. -/
theorem nameless_path_skips_directory : ∃ (target : Path) (error : SystemError),
    ¬ Small.package.directory.HasNul ∧ ¬ Small.nameless.path.HasNul ∧ target.toString = "/w/elfs.elf" ∧
    Runs (publishGuest Small.package Small.nameless) Small.fresh
      (.error (.bake (.filesystem (.copy Small.nameless.path target error) target))) Small.fresh ∧
    ∀ found, Small.fresh.tree.status Small.fresh.location Small.package.publishDirectory ≠ .ok found := by
  have clean : ¬ Small.package.directory.HasNul := by decide +kernel
  have cleanSource : ¬ Small.nameless.path.HasNul := by decide +kernel
  have there : Small.fresh.tree.status Small.fresh.location (Effect.directory.path Small.package Small.nameless) =
      .ok (["w"], .directory) := by decide +kernel
  obtain ⟨answer, after, hruns⟩ := Runs.exists (publishGuest Small.package Small.nameless) Small.fresh
  obtain ⟨rfl, error, rfl⟩ := publishGuest_unusable clean cleanSource (Small.unusable_nameless _) there hruns
  have habsent : Small.fresh.tree.status Small.fresh.location Small.package.publishDirectory = .error .noEntry := by
    decide +kernel
  exact ⟨_, error, clean, cleanSource, by decide +kernel, hruns, by simp [habsent]⟩

end GuestForge
