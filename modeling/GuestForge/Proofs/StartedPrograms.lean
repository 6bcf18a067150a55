import GuestForge.Proofs.ConfiguredPrograms
set_option autoImplicit false

/-!
# What a bake starts

A bake asks the package manager once, and what it starts after that are builds. Publishing starts nothing, so the calls
on record are those two kinds, in this order, and each of them is composed from its command.
-/
namespace GuestForge
open HostM External

def IsBuild (command : String) (call : Call) : Prop :=
  ∃ package targetDirectory options words, builderCommand command package targetDirectory options = .ok words ∧
    call = ⟨words, some package.directory⟩

def Host.Builds (command : String) (before after : Host) : Prop :=
  ∃ builds, after.calls = before.calls ++ builds ∧ ∀ call ∈ builds, IsBuild command call

section builds
variable {command : String}

theorem builds_of_calls_eq {before after : Host} (h : after.calls = before.calls) : Host.Builds command before after :=
  ⟨[], by rw [h, List.append_nil], List.forall_mem_nil _⟩

theorem builds_of_retreed {before after : Host} (h : Host.Retreed before after) : Host.Builds command before after :=
  builds_of_calls_eq (by rw [h]; rfl)

theorem builds_trans {before middle after : Host} (h : Host.Builds command before middle)
    (h' : Host.Builds command middle after) : Host.Builds command before after := by
  obtain ⟨first, hfirst, hbuilds⟩ := h
  obtain ⟨rest, hrest, hbuilds'⟩ := h'
  refine ⟨first ++ rest, by rw [hrest, hfirst, List.append_assoc], fun call hcall => ?_⟩
  exact (List.mem_append.1 hcall).elim (hbuilds call) (hbuilds' call)

theorem builds_builder (package : Package) (targetDirectory : Path) (options : GuestOptions) :
    Keeps (Host.Builds command) (builder command package targetDirectory options) := by
  intro before answer after h
  cases composed : builderCommand command package targetDirectory options with
  | error error =>
    rw [((runs_builder_unread composed).1 h).2]
    exact builds_of_calls_eq rfl
  | ok words =>
    rcases calls_builder composed h with hnone | hone
    · exact builds_of_calls_eq hnone
    · refine ⟨_, hone, fun call hcall => ?_⟩
      rw [List.mem_singleton.1 hcall]
      exact ⟨package, targetDirectory, options, words, composed, rfl⟩

/-- Whatever the course of a bake is, all it starts are builds. -/
theorem builds_bake (workspace : Workspace) (configuration : Configuration) (selection : Selection) (root : Option Path) :
    Keeps (fun before after : Session => Host.Builds command before.host after.host)
      (bake workspace (builder command) configuration selection root) := by
  have hpublishes : ∀ package guest, Keeps (Host.Builds command) (publishGuest package guest) :=
    fun _ _ _ _ _ h => builds_of_retreed (retreed_publishGuest _ _ _ h)
  exact keeps_bake (fun _ _ _ => builds_trans) (fun _ => builds_of_calls_eq rfl) builds_builder hpublishes

end builds

namespace CommandLine
variable {environment : List (String × String)} {session after : Session}

theorem showAnswer_session (json : Bool) (answer : Except Fault BakeResult) :
    Keeps (fun before after : Terminal => after.session = before.session) (showAnswer json answer) := by
  have trans : ∀ s t u : Terminal, t.session = s.session → u.session = t.session → u.session = s.session :=
    fun _ _ _ h h' => h'.trans h
  have refl : ∀ s : Terminal, s.session = s.session := fun _ => rfl
  have hecho : ∀ text, Keeps (fun before after : Terminal => after.session = before.session) (CommandM.echo text) := by
    intro text before answer after h
    rw [(runs_echo.1 h).2]
  have hprint : ∀ markup,
      Keeps (fun before after : Terminal => after.session = before.session) (CommandM.print markup) := by
    intro markup before answer after h
    cases hrender : Text.Markup.render markup with
    | ok text => rw [((runs_print hrender).1 h).2]
    | error error => rw [((runs_print_error hrender).1 h).2]
  cases answer with
  | ok result =>
    refine Keeps.ite (hecho _) ?_
    refine Keeps.ite (hprint _) ?_
    refine Keeps.bind trans (hprint _) fun _ => ?_
    exact Keeps.forM trans refl fun guest _ => Keeps.bind trans (hprint _) fun _ => hprint _
  | error fault =>
    cases fault with
    | bake error =>
      refine Keeps.ite ?_ ?_
      · exact Keeps.bind trans (hecho _) fun _ => Keeps.throw refl _
      · exact Keeps.bind trans (hprint _) fun _ => Keeps.throw refl _
    | _ => exact Keeps.throw refl _

theorem Invocation.Bakes.leaves {invocation : Invocation "bake" bakeSpecs environment session}
    {answer : Except Fault BakeResult} (h : invocation.Bakes answer after) :
    (CommandLine.execute invocation.arguments environment session).2 = after := by
  obtain ⟨ending, terminal, hshow⟩ :=
    Runs.exists (showAnswer (isGiven invocation.options "json") answer) (invocation.printed after "")
  rw [h.execute hshow]
  exact showAnswer_session _ _ _ _ _ hshow

/-- What a bake with these commands starts: the package manager once and then builds, or nothing at all if the words of
the package manager cannot be read. -/
structure Starts (invocation : Invocation "bake" bakeSpecs environment session) (manager builder : String) : Prop where
  composed : ∀ words, metadataCommand manager (manifestOf invocation.options)
      (some (configurationOf invocation.options)) = .ok words →
    ∃ builds, (execute invocation.arguments environment session).2.host.calls =
        session.host.calls ++ ⟨words, none⟩ :: builds ∧
      ∀ call ∈ builds, IsBuild builder call
  unread : ∀ error, metadataCommand manager (manifestOf invocation.options)
      (some (configurationOf invocation.options)) = .error error →
    (execute invocation.arguments environment session).2 = session

theorem Invocation.starts (invocation : Invocation "bake" bakeSpecs environment session)
    (clean : ∀ text ∈ valueOf? invocation.options "manifest-path", '\x00' ∉ text.toList) :
    Starts invocation invocation.settings.packageManager invocation.settings.builder := by
  obtain ⟨answer, after, hruns⟩ := Runs.exists (resolveAndBake invocation.settings (manifestOf invocation.options)
    (configurationOf invocation.options) (selectionOf invocation.options)) session
  have hbakes : invocation.Bakes answer after := ⟨clean, hruns⟩
  have hleaves := hbakes.leaves
  rw [resolveAndBake, runs_bind] at hruns
  constructor
  · intro words composed
    rw [hleaves]
    rcases hruns with ⟨workspace, middle, hresolves, hbakes⟩ | ⟨fault, hresolves, -⟩
    · have hcalls := calls_resolveWorkspace composed (runs_onHost.1 hresolves).1
      obtain ⟨builds, hbuilds, hall⟩ := builds_bake _ _ _ _ _ _ _ hbakes
      exact ⟨builds, by rw [hbuilds, hcalls, List.append_assoc, List.singleton_append], hall⟩
    · exact ⟨[], calls_resolveWorkspace composed (runs_onHost.1 hresolves).1, List.forall_mem_nil _⟩
  · intro error unread
    have hfails : Runs (BakeM.onHost (resolveWorkspace (manifestOf invocation.options)
        (some (configurationOf invocation.options)) invocation.settings.packageManager)) session
        (.error (.value (.words error))) session :=
      runs_onHost.2 ⟨(runs_resolveWorkspace_uncomposed unread).2 ⟨rfl, rfl⟩, rfl⟩
    rw [hleaves]
    rcases hruns with ⟨workspace, middle, hresolves, -⟩ | ⟨fault, hresolves, -⟩
    · cases (hfails.unique hresolves).1
    · exact (hfails.unique hresolves).2.symm

end CommandLine

end GuestForge
