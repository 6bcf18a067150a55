import GuestForge.Proofs.Publishing
import GuestForge.Proofs.Recipes
import GuestForge.Proofs.Refusals
set_option autoImplicit false

/-!
# What runs fail with

A run that fails does so at one package. Its builder raised something, which is passed on if it is a bake error and
named after the package if it is not; or a step of a publication was refused, which is a file system error about the
path of that step. A NUL character in a path is no refusal: it ends the run with a fault that is no bake error.
-/
namespace GuestForge
open HostM

theorem Package.hasNul_publishDirectory (package : Package) :
    package.publishDirectory.HasNul ↔ package.directory.HasNul := by
  have helfs : '\x00' ∉ elfsName.text.toList := by decide
  have hnames : package.publishDirectory.names = package.directory.names ++ [elfsName] := by
    rw [package.publishDirectory_eq]
    rfl
  rw [Path.hasNul_iff, Path.hasNul_iff, hnames]
  simp [or_and_right, exists_or, helfs]

theorem Path.hasNul_of_stem {path : Path} (h : '\x00' ∈ path.stem.toList) : path.HasNul := by
  rw [stem, String.toList_ofList] at h
  have hfile : '\x00' ∈ path.fileName.toList := (Name.stemOf_isPrefix _).subset h
  unfold fileName at hfile
  cases hname : path.name? with
  | none =>
    rw [hname] at hfile
    exact absurd hfile (by decide)
  | some name =>
    rw [hname] at hfile
    exact path.hasNul_iff.2 ⟨name, List.mem_of_getLast? hname, hfile⟩

theorem Path.hasNul_of_beside {path : Path} {sibling : Sibling} (h : (path.beside sibling).HasNul) : path.HasNul := by
  obtain ⟨name, hname, hnul⟩ := (hasNul_iff _).1 h
  rcases List.mem_append.1 hname with houter | hlast
  · exact path.hasNul_iff.2 ⟨name, List.dropLast_subset _ houter, hnul⟩
  · have hextension : '\x00' ∉ sibling.extension.text.toList := by
      rcases sibling with _ | _ | ⟨_ | _⟩ <;> decide
    rw [List.mem_singleton.1 hlast, extended, String.toList_append, List.mem_append] at hnul
    exact hasNul_of_stem (hnul.resolve_right hextension)

namespace Publish
variable {directory : Path} {package : Package} {guest : BuiltGuest}

theorem hasNul_of_base (h : (base directory guest).HasNul) : directory.HasNul ∨ guest.path.HasNul := by
  rcases List.eq_nil_or_concat guest.path.names with hnil | ⟨outer, name, hnames⟩
  · rw [base_nameless hnil] at h
    exact .inl h
  · rw [List.concat_eq_append] at hnames
    rw [base_eq hnames] at h
    obtain ⟨other, hother, hnul⟩ := (Path.hasNul_iff _).1 h
    rcases List.mem_append.1 hother with houter | hlast
    · exact .inl ((Path.hasNul_iff _).2 ⟨other, houter, hnul⟩)
    · rw [List.mem_singleton.1 hlast] at hnul
      exact .inr ((Path.hasNul_iff _).2 ⟨name, by simp [hnames], hnul⟩)

theorem hasNul_parent_base (package : Package) (guest : BuiltGuest) :
    (base package.publishDirectory guest).parent.HasNul ↔ package.directory.HasNul := by
  by_cases hnil : guest.path.names = []
  · have hparent : package.publishDirectory.parent = package.directory := by
      rw [package.publishDirectory_eq, Path.parent, List.dropLast_concat]
      rfl
    rw [base_nameless hnil, hparent]
  · rw [parent_base_eq hnil]
    exact package.hasNul_publishDirectory

inductive FileFault (guest : BuiltGuest) (base : Path) : Fault → Prop where
  | copy (error : SystemError) :
    FileFault guest base (.bake (.filesystem (.copy guest.path (base.beside .elf) error) (base.beside .elf)))
  | writeLegacy (error : SystemError) (applies : guest.legacyId ≠ Digest.zero) :
    FileFault guest base (.bake (.filesystem (.write (base.beside .legacy) error) (base.beside .legacy)))
  | removeLegacy (error : SystemError) (zero : guest.legacyId = Digest.zero) :
    FileFault guest base (.bake (.filesystem (.remove (base.beside .legacy) error) (base.beside .legacy)))
  | writeOwn (error : SystemError) :
    FileFault guest base (.bake (.filesystem (.write (base.beside (.id guest.imageId.context)) error)
      (base.beside (.id guest.imageId.context))))
  | removeOther (error : SystemError) :
    FileFault guest base (.bake (.filesystem (.remove (base.beside (.id guest.imageId.context.other)) error)
      (base.beside (.id guest.imageId.context.other))))

/-- What a publication fails with. Only a NUL character leads to a fault that is no bake error. -/
inductive PublicationFault (package : Package) (guest : BuiltGuest) : Fault → Prop where
  | directory (clean : ¬ package.directory.HasNul) (error : SystemError) :
    PublicationFault package guest (.bake (.filesystem
      (.createDirectory (base package.publishDirectory guest).parent error) (base package.publishDirectory guest).parent))
  | file (clean : ¬ package.directory.HasNul) (cleanSource : ¬ guest.path.HasNul) {fault : Fault}
      (cause : FileFault guest (base package.publishDirectory guest) fault) : PublicationFault package guest fault
  | nul (h : package.directory.HasNul ∨ guest.path.HasNul) : PublicationFault package guest (.value .embeddedNul)

section steps
variable {path : Path} {allowed : Fault → Prop}

theorem raises_writeDigest (clean : ¬ path.HasNul) (digest : Digest)
    (h : ∀ error, allowed (.bake (.filesystem (.write path error) path))) : Raises allowed (writeDigest path digest) :=
  Raises.bind ((refuses_writeFile clean _).orElse fun error => Raises.throw (h error)) fun _ => Raises.pure _

theorem raises_removeStale (clean : ¬ path.HasNul)
    (h : ∀ error, allowed (.bake (.filesystem (.remove path error) path))) : Raises allowed (removeStale path) := by
  refine Refuses.orElse (Raises.bind (refuses_pathExists clean) fun found => ?_) fun error => Raises.throw (h error)
  exact Raises.ite (fun _ => refuses_setTree clean _) fun _ => Raises.pure _

theorem raises_identifiers (clean : ¬ path.HasNul) (hnames : path.names ≠ []) (guest : BuiltGuest) :
    Raises (FileFault guest path) (identifiers guest path) := by
  have hclean : ∀ sibling, ¬ (path.beside sibling).HasNul := fun _ h => clean (Path.hasNul_of_beside h)
  rw [identifiers_eq hnames]
  refine Raises.bind (Raises.ite (fun applies => ?_) fun zero => ?_) fun legacy => ?_
  · exact Raises.map (raises_writeDigest (hclean _) _ fun error => .writeLegacy error applies)
  · have hzero : guest.legacyId = Digest.zero := not_not.1 zero
    exact Raises.bind (raises_removeStale (hclean _) fun error => .removeLegacy error hzero) fun _ => Raises.pure _
  · refine Raises.bind (raises_writeDigest (hclean _) _ .writeOwn) fun written => ?_
    exact Raises.bind (raises_removeStale (hclean _) .removeOther) fun _ => Raises.pure _

end steps

variable {host after : Host} {answer : Except Fault PublishedGuest}

theorem raises_publishGuest (clean : ¬ package.directory.HasNul) (cleanSource : ¬ guest.path.HasNul) :
    Raises (PublicationFault package guest) (publishGuest package guest) := by
  have hparent := mt (hasNul_parent_base package guest).1 clean
  have hbase : ¬ (base package.publishDirectory guest).HasNul := by
    intro h
    rcases hasNul_of_base h with hdirectory | hpath
    · exact clean (package.hasNul_publishDirectory.1 hdirectory)
    · exact cleanSource hpath
  have helf : ¬ ((base package.publishDirectory guest).beside .elf).HasNul := fun h => hbase (Path.hasNul_of_beside h)
  have hidentifiers := raises_identifiers hbase (names_base (names_publishDirectory package)) guest
  rw [publishGuest_eq, elf_eq (names_publishDirectory package)]
  refine Raises.bind ?_ fun elfPath => Raises.bind ?_ fun _ => Raises.pure _
  · refine Raises.bind ?_ fun _ => Raises.bind ?_ fun _ => Raises.pure _
    · exact (refuses_makeDirectories hparent).orElse fun error => Raises.throw (.directory clean error)
    · exact (refuses_copyFile helf cleanSource).orElse fun error => Raises.throw (.file clean cleanSource (.copy error))
  · intro before fault after h
    exact .file clean cleanSource (hidentifiers _ _ _ h)

theorem publishGuest_nul_directory (h : package.directory.HasNul) : Balks (publishGuest package guest) := by
  have hmakes := balks_makeDirectories ((hasNul_parent_base package guest).2 h)
  rw [publishGuest_eq, elf_eq (names_publishDirectory package)]
  exact hmakes.orElse.bind.bind

theorem publishGuest_nul_source (clean : ¬ package.directory.HasNul) (h : guest.path.HasNul)
    (hruns : Runs (publishGuest package guest) host answer after) :
    ∃ fault, answer = .error fault ∧ PublicationFault package guest fault := by
  have hparent := mt (hasNul_parent_base package guest).1 clean
  rw [publishGuest_eq, elf_eq (names_publishDirectory package), bind_assoc, bind_assoc] at hruns
  -- The directory is made before the copy looks at the source, so its refusal comes first.
  rcases runs_bind.1 hruns with ⟨_, middle, -, hrest⟩ | ⟨fault, hmakes, rfl⟩
  · have hcopy := (balks_copyFile h ((base package.publishDirectory guest).beside .elf)).orElse.bind _ _ _ hrest
    exact ⟨_, hcopy.1, .nul (.inr h)⟩
  · obtain ⟨error, rfl⟩ := (refuses_makeDirectories hparent).named _ _ _ _ hmakes
    exact ⟨_, rfl, .directory clean error⟩

theorem publishGuest_fault {fault : Fault} (h : Runs (publishGuest package guest) host (.error fault) after) :
    PublicationFault package guest fault := by
  by_cases hdirectory : package.directory.HasNul
  · cases (publishGuest_nul_directory hdirectory _ _ _ h).1
    exact .nul (.inl hdirectory)
  · by_cases hsource : guest.path.HasNul
    · obtain ⟨other, hanswer, hcause⟩ := publishGuest_nul_source hdirectory hsource h
      cases hanswer
      exact hcause
    · exact raises_publishGuest hdirectory hsource _ _ _ h

theorem PublicationFault.bake {fault : Fault} (h : PublicationFault package guest fault)
    (clean : ¬ package.directory.HasNul) (cleanSource : ¬ guest.path.HasNul) : ∃ error, fault = .bake error := by
  cases h with
  | directory _ error => exact ⟨_, rfl⟩
  | file _ _ cause => cases cause <;> exact ⟨_, rfl⟩
  | nul h => exact (h.elim clean cleanSource).elim

end Publish

inductive Plan.Explains (plan : Plan) (package : Package) (earlier : List Event) (start after : Session) :
    Fault → Prop where
  | passed {error : BakeError}
    (raises : Runs (plan.builder package plan.targetDirectory plan.options) start.host (.error (.bake error)) after.host) :
    Explains plan package earlier start after (.bake error)
  | named {raised : Fault} {error : BakeError}
    (raises : Runs (plan.builder package plan.targetDirectory plan.options) start.host (.error raised) after.host)
    (foreign : ∀ other, raised ≠ .bake other) (code : error.code = "build_failed")
    (message : error.message = "Failed to build " ++ package.name ++ ": " ++ raised.message)
    (details : error.details = [("package", .string package.name)]) :
    Explains plan package earlier start after (.bake error)
  | published {guests : List BuiltGuest} {guest : BuiltGuest} {fault : Fault}
    (reported : plan.build package (.ok guests) ∈ earlier) (mem : guest ∈ guests)
    (publishes : Runs (publishGuest package guest) start.host (.error fault) after.host)
    (cause : Publish.PublicationFault package guest fault) : Explains plan package earlier start after fault

def valueError? {α : Type} : Except Fault α → Option ValueError
  | .error (.value error) => some error
  | _ => none

/-- An action that can be evaluated to a value error runs as its evaluation says. -/
theorem runs_of_valueError {σ α : Type} {action : ExceptT Fault (StateM σ) α} {before : σ} {error : ValueError}
    (h : valueError? (action.run.run before : Except Fault α × σ).1 = some error) :
    Runs action before (.error (.value error)) (action.run.run before : Except Fault α × σ).2 := by
  obtain ⟨answer, after, hruns⟩ := Runs.exists action before
  unfold Runs at hruns ⊢
  rw [hruns] at h ⊢
  cases answer with
  | ok a => cases h
  | error fault =>
    cases fault with
    | value other =>
      cases h
      rfl
    | _ => cases h

section runs
variable {plan : Plan} {package : Package} {earlier : List Event} {start after : Session} {fault : Fault}

theorem Plan.explains_build (h : (plan.build package (.error fault)).Happens start after) :
    plan.Explains package earlier start after fault := by
  obtain ⟨result, hbuilds, hnamed, -⟩ := (runs_buildGuests (plan.request package)).1 h
  cases result with
  | ok guests => cases hnamed
  | error raised =>
    by_cases hbake : ∃ error, raised = .bake error
    · obtain ⟨error, rfl⟩ := hbake
      cases hnamed
      exact .passed hbuilds
    · have hforeign : ∀ other, raised ≠ .bake other := fun other h => hbake ⟨other, h⟩
      have hfault : fault =
          .bake (.build (.raised package.name raised.message) (some package.name) none none) := by
        cases raised with
        | bake error => exact absurd rfl (hforeign error)
        | _ => exact Except.error.inj hnamed
      rw [hfault]
      exact .named hbuilds hforeign rfl rfl rfl

theorem Plan.Fails.explains {before : Session} {events : List Event} (hfails : plan.Fails package fault events)
    (h : Trace before (earlier ++ events) after) :
    ∃ last start, earlier <+: last ∧ Trace before last start ∧ plan.Explains package last start after fault := by
  rcases hfails with rfl | ⟨published, guest, others, rfl⟩
  · obtain ⟨start, hearlier, hlast⟩ := trace_append.1 h
    exact ⟨earlier, start, List.prefix_rfl, hearlier, plan.explains_build (trace_singleton.1 hlast)⟩
  · rw [← List.cons_append, ← List.append_assoc] at h
    obtain ⟨start, hearlier, hlast⟩ := trace_append.1 h
    have hpublishes := (runs_onHost.1 (trace_singleton.1 hlast)).1
    have hreported : plan.build package (.ok (published.map Prod.fst ++ guest :: others)) ∈
        earlier ++ plan.build package (.ok (published.map Prod.fst ++ guest :: others)) ::
          publications package published := List.mem_append_right _ List.mem_cons_self
    exact ⟨_, start, List.prefix_append _ _, hearlier, .published hreported
      (List.mem_append_right _ List.mem_cons_self) hpublishes (Publish.publishGuest_fault hpublishes)⟩

theorem Plan.Explains.bake (h : plan.Explains package earlier start after fault) (clean : ¬ package.directory.HasNul)
    (cleanSources : ∀ guests, plan.build package (.ok guests) ∈ earlier → ∀ guest ∈ guests, ¬ guest.path.HasNul) :
    ∃ error, fault = .bake error := by
  cases h with
  | passed raises => exact ⟨_, rfl⟩
  | named raises => exact ⟨_, rfl⟩
  | published reported mem publishes cause => exact cause.bake clean (cleanSources _ reported _ mem)

end runs

section bake
variable {workspace : Workspace} {builder : Builder} {configuration : Configuration} {selection : Selection}
  {root : Option Path} {before after : Session}

/-- A run returns, or it fails at a package for one of the reasons above. The fault is a bake error unless there is a
NUL character in the directory of that package or in a path that was reported for it. -/
theorem bake_fails_explained {answer : Except Fault BakeResult}
    (h : Runs (bake workspace builder configuration selection root) before answer after) :
    (∃ result, answer = .ok result) ∨
      ∃ (batches : List Batch) (package : Package) (rest : List Package) (earlier : List Event) (start : Session)
          (fault : Fault), answer = .error fault ∧
        workspace.guests selection = batches.map Batch.package ++ package :: rest ∧
        batches.flatMap (workspace.plan builder configuration root before.host).batch <+: earlier ∧
        Trace before earlier start ∧
        (workspace.plan builder configuration root before.host).Explains package earlier start after fault ∧
        (¬ package.directory.HasNul →
          (∀ guests, (workspace.plan builder configuration root before.host).build package (.ok guests) ∈ earlier →
            ∀ guest ∈ guests, ¬ guest.path.HasNul) → ∃ error, fault = .bake error) := by
  obtain ⟨outcome, events, hcourse, rfl, htrace⟩ := runs_bake.1 h
  cases outcome with
  | ok batches => exact .inl ⟨_, rfl⟩
  | error fault =>
    obtain ⟨batches, package, rest, last, hpackages, hfails, rfl⟩ := hcourse
    obtain ⟨earlier, start, hprefix, hearlier, hexplains⟩ := hfails.explains htrace
    exact .inr ⟨batches, package, rest, earlier, start, fault, rfl, hpackages, hprefix, hearlier, hexplains,
      hexplains.bake⟩

def Small.raising : Builder := fun _ _ _ => HostM.fail (.stated "boom")

theorem bake_fails_explained_small : ∃ (error : BakeError) (after start : Session) (batches : List Batch)
    (package : Package) (rest : List Package) (earlier : List Event),
    Runs (bake Small.workspace Small.raising {} {} none) ⟨Small.host, []⟩ (.error (.bake error)) after ∧
    error.message = "Failed to build p: boom" ∧
    Small.workspace.guests {} = batches.map Batch.package ++ package :: rest ∧ Trace ⟨Small.host, []⟩ earlier start ∧
    (Small.workspace.plan Small.raising {} none Small.host).Explains package earlier start after (.bake error) := by
  have hruns : Runs (bake Small.workspace Small.raising {} {} none) ⟨Small.host, []⟩
      (.error (.bake (.build (.raised "p" "boom") (some "p") none none))) _ := rfl
  rcases bake_fails_explained hruns with ⟨result, hanswer⟩ | ⟨batches, package, rest, earlier, start, fault, hfault,
    hpackages, -, htrace, hexplains, -⟩
  · cases hanswer
  · cases hfault
    exact ⟨_, _, start, batches, package, rest, earlier, hruns, rfl, hpackages, htrace, hexplains⟩

def Small.reportsNul : Builder := fun _ _ _ =>
  pure [{ Small.guest with path := ⟨.root, [Small.outputName, Small.name "b\x00" (by decide)]⟩ }]

/-- A NUL character in a reported path ends the run with a value error, which is no file system error nor any other bake
error. -/
theorem bake_raises_value_error : ∃ after,
    Runs (bake Small.workspace Small.reportsNul {} {} none) ⟨Small.host, []⟩ (.error (.value .embeddedNul)) after :=
  ⟨_, runs_of_valueError (by decide +kernel)⟩

end bake

end GuestForge
