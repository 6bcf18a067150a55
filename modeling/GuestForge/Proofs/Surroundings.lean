import GuestForge.Proofs.BuildLogs
import GuestForge.Proofs.CommandRuns
set_option autoImplicit false

/-!
# What the commands leave alone

Publishing and exporting change the tree of a host and nothing else. Builds start processes besides, which uses up
outcomes and puts calls on record; the current directory, the clock and the console stay whatever is run.
-/
namespace GuestForge
open HostM External

section publishing
variable {package : Package} {guest : BuiltGuest} {path : Path}

theorem retreed_fail {α : Type} (fault : Fault) : Keeps Host.Retreed (fail fault : HostM α) :=
  retreed_of_quiet (Quiet.fail fault)

theorem retreed_orElse {α : Type} {act : HostM α} (h : Keeps Host.Retreed act) (fault : SystemError → Fault) :
    Keeps Host.Retreed (orElse act fun error => fail (fault error)) :=
  keeps_orElse retreed_trans retreed_refl h fun _ => retreed_fail _

theorem retreed_ofValue {ε α : Type} (wrap : ε → ValueError) (value : Except ε α) :
    Keeps Host.Retreed (ofValue wrap value) := by
  cases value with
  | ok a => exact retreed_of_quiet (Quiet.pure a)
  | error error => exact retreed_fail _

theorem retreed_unlink : Keeps Host.Retreed (unlink path) := by
  refine Keeps.bind retreed_trans (retreed_of_quiet (quiet_ask _)) fun tree => ?_
  intro before answer after h
  rw [(runs_setTree.1 h).2]
  rfl

theorem retreed_copyFile {source target : Path} : Keeps Host.Retreed (copyFile source target) := by
  refine Keeps.bind retreed_trans (retreed_of_quiet quiet_found?) fun origin => ?_
  refine Keeps.bind retreed_trans (retreed_of_quiet quiet_found?) fun destination => ?_
  refine Keeps.ite (retreed_fail _) ?_
  refine Keeps.bind retreed_trans (retreed_of_quiet (quiet_ask _)) fun bytes => ?_
  refine keeps_orElse retreed_trans retreed_refl retreed_writeFile fun error => Keeps.ite ?_ (retreed_fail _)
  refine Keeps.bind retreed_trans (retreed_of_quiet quiet_found?) fun found => ?_
  exact Keeps.ite (retreed_fail _) (retreed_fail _)

theorem retreed_elf {directory : Path} : Keeps Host.Retreed (Publish.elf guest directory) := by
  refine Keeps.bind retreed_trans (retreed_ofValue _ _) fun target => ?_
  refine Keeps.bind retreed_trans (retreed_orElse retreed_makeDirectories _) fun _ => ?_
  exact Keeps.bind retreed_trans (retreed_orElse retreed_copyFile _) fun _ => Keeps.pure retreed_refl _

theorem retreed_writeDigest {digest : Digest} : Keeps Host.Retreed (Publish.writeDigest path digest) :=
  Keeps.bind retreed_trans (retreed_orElse retreed_writeFile _) fun _ => Keeps.pure retreed_refl _

theorem retreed_removeStale : Keeps Host.Retreed (Publish.removeStale path) := by
  refine retreed_orElse (Keeps.bind retreed_trans (retreed_of_quiet quiet_pathExists) fun found => ?_) _
  exact Keeps.ite retreed_unlink (Keeps.pure retreed_refl _)

theorem retreed_identifiers : Keeps Host.Retreed (Publish.identifiers guest path) := by
  refine Keeps.bind retreed_trans (retreed_ofValue _ _) fun legacyPath => ?_
  have hrest : ∀ legacy : Option Path, Keeps Host.Retreed (do
      let paths ← ofValue .name (Publish.identifierPaths path guest)
      let written ← Publish.writeDigest paths.1 guest.imageId.digest
      Publish.removeStale paths.2
      pure (legacy, written)) := by
    intro legacy
    refine Keeps.bind retreed_trans (retreed_ofValue _ _) fun paths => ?_
    refine Keeps.bind retreed_trans retreed_writeDigest fun written => ?_
    exact Keeps.bind retreed_trans retreed_removeStale fun _ => Keeps.pure retreed_refl _
  refine Keeps.ite (Keeps.bind retreed_trans ?_ hrest) ?_
  · rw [map_eq_pure_bind]
    exact Keeps.bind retreed_trans retreed_writeDigest fun _ => Keeps.pure retreed_refl _
  · refine Keeps.bind retreed_trans retreed_removeStale fun _ => ?_
    exact Keeps.bind retreed_trans (Keeps.pure retreed_refl _) hrest

theorem retreed_publishGuest : Keeps Host.Retreed (publishGuest package guest) :=
  Keeps.bind retreed_trans retreed_elf fun _ =>
    Keeps.bind retreed_trans retreed_identifiers fun _ => Keeps.pure retreed_refl _

end publishing

structure Host.Stays (before after : Host) : Prop where
  current : after.current = before.current
  clock : after.clock = before.clock
  console : after.console = before.console

section stays
variable {command : String} {call : Call}

theorem stays_refl (host : Host) : Host.Stays host host := ⟨rfl, rfl, rfl⟩

theorem stays_trans (s t u : Host) (h : Host.Stays s t) (h' : Host.Stays t u) : Host.Stays s u :=
  ⟨h'.current.trans h.current, h'.clock.trans h.clock, h'.console.trans h.console⟩

theorem stays_of_retreed {α : Type} {act : HostM α} (h : Keeps Host.Retreed act) : Keeps Host.Stays act := by
  intro before answer after hruns
  rw [h _ _ _ hruns]
  exact ⟨rfl, rfl, rfl⟩

theorem stays_fail {α : Type} (fault : Fault) : Keeps Host.Stays (fail fault : HostM α) :=
  stays_of_retreed (retreed_fail fault)

theorem stays_startProcess : Keeps Host.Stays (startProcess call) := by
  intro before answer after hruns
  rw [startProcess_after hruns]
  exact ⟨rfl, rfl, rfl⟩

theorem stays_runLogged {log : Path} : Keeps Host.Stays (runLogged log call) := by
  refine Keeps.bind stays_trans (stays_of_retreed retreed_makeDirectories) fun _ => ?_
  refine Keeps.bind stays_trans (stays_of_retreed (retreed_of_quiet (quiet_ask _))) fun location => ?_
  refine Keeps.bind stays_trans (fun _ _ _ hget => (hget.unique run_get).2 ▸ stays_refl _) fun host => ?_
  refine Keeps.bind stays_trans (stays_of_retreed (retreed_setEntry _)) fun _ => ?_
  refine Keeps.bind stays_trans stays_startProcess fun ended => ?_
  exact Keeps.bind stays_trans (stays_of_retreed (retreed_writeAt _)) fun _ => Keeps.pure stays_refl _

theorem stays_builder (package : Package) (targetDirectory : Path) (options : GuestOptions) :
    Keeps Host.Stays (builder command package targetDirectory options) := by
  intro before answer after hruns
  cases composed : builderCommand command package targetDirectory options with
  | error error =>
    rw [((runs_builder_unread composed).1 hruns).2]
    exact stays_refl before
  | ok words =>
    rcases builder_runs composed hruns with ⟨fault, hlogged, -⟩ | ⟨ended, stopped, result, hlogged, happends, -⟩
    · exact stays_runLogged _ _ _ hlogged
    · exact stays_trans _ _ _ (stays_runLogged _ _ _ hlogged)
        (stays_of_retreed retreed_appendFile _ _ _ happends)

theorem stays_resolveWorkspace (manifest : Option Path) (configuration : Option Configuration) :
    Keeps Host.Stays (resolveWorkspace manifest configuration command) := by
  refine Keeps.bind stays_trans (stays_of_retreed (retreed_ofValue _ _)) fun words => ?_
  have hstarts : Keeps Host.Stays (orElse (startProcess ⟨words, none⟩) fun error =>
      fail (.bake (.metadata (.notStarted error)))) :=
    keeps_orElse stays_trans stays_refl stays_startProcess fun _ => stays_fail _
  refine Keeps.bind stays_trans hstarts fun ended => Keeps.ite (stays_fail _) ?_
  split
  · exact Keeps.pure stays_refl _
  · exact stays_fail _

end stays

section bakes
variable {related : Host → Host → Prop} {builder : Builder} {workspace : Workspace} {configuration : Configuration}
  {selection : Selection} {root : Option Path}

/-- What builds and publications keep is kept by a bake, whatever its course is. -/
theorem keeps_bake (trans : ∀ s t u, related s t → related t u → related s u) (refl : ∀ s, related s s)
    (builds : ∀ package targetDirectory options, Keeps related (builder package targetDirectory options))
    (publishes : ∀ package guest, Keeps related (publishGuest package guest)) :
    Keeps (fun before after : Session => related before.host after.host)
      (bake workspace builder configuration selection root) := by
  intro before answer after h
  obtain ⟨outcome, events, hcourse, -, htrace⟩ := runs_bake.1 h
  refine htrace.invariant (fun session => related before.host session.host) ?_ (refl before.host)
  intro event hevent s t happens hs
  refine trans _ _ _ hs ?_
  have hmakes := hcourse.makes hevent
  cases event with
  | built other request answer =>
    obtain rfl : other = builder := hmakes
    obtain ⟨result, hbuilds, -, -⟩ := (runs_buildGuests request).1 happens
    exact builds _ _ _ _ _ _ hbuilds
  | published package guest answer => exact publishes _ _ _ _ _ (runs_onHost.1 happens).1
  | identified guest path answer => exact hmakes.elim

end bakes

namespace CommandLine

theorem stays_resolveAndBake (settings : Settings) (manifest : Option Path) (configuration : Configuration)
    (selection : Selection) : Keeps (fun before after : Session => Host.Stays before.host after.host)
      (resolveAndBake settings manifest configuration selection) := by
  refine Keeps.bind (fun s t u => stays_trans s.host t.host u.host) ?_ fun workspace => ?_
  · intro before answer after hresolves
    exact stays_resolveWorkspace _ _ _ _ _ (runs_onHost.1 hresolves).1
  · exact keeps_bake stays_trans stays_refl stays_builder fun _ _ => stays_of_retreed retreed_publishGuest

theorem retreed_exportBundle (directory : Path) : Keeps Host.Retreed (exportBundle directory) :=
  Keeps.bind retreed_trans retreed_makeDirectories fun _ =>
    Keeps.bind retreed_trans retreed_writeFile fun _ => retreed_writeFile

theorem Invocation.Bakes.stays {environment : List (String × String)} {session after : Session}
    {invocation : Invocation "bake" bakeSpecs environment session} {answer : Except Fault BakeResult}
    (h : invocation.Bakes answer after) : Host.Stays session.host after.host :=
  stays_resolveAndBake _ _ _ _ _ _ _ h.2

end CommandLine

end GuestForge
