import GuestForge.Proofs.Processes
import GuestForge.Proofs.RecordedCommands
import GuestForge.Proofs.TextOutput
set_option autoImplicit false

/-!
# Resolving a workspace, and what it fails with

The words of the configured command come first. If they can be read and passed on, the package manager is started once,
and whatever becomes of it, resolving ends with the workspace that its output describes or with a metadata error; the
bake command then shows the error and ends with exit code 1. Words that cannot be read, or that hold a NUL character,
make no metadata error but a value error, which ends the call unhandled.
-/
namespace GuestForge
open HostM Schema
open Json (IsDocument)
open Text.ShellWords (Error split)

structure ManagerRuns (manifest : Option Path) (configuration : Option Configuration) (command : String) (host : Host)
    (words : List String) (result : Except Fault Ended) (after : Host) : Prop where
  composed : metadataCommand command manifest configuration = .ok words
  process : Runs (startProcess ⟨words, none⟩) host result after
  calls : after.calls = host.calls ++ [⟨words, none⟩]

def Ended.shownDiagnostics (ended : Ended) : String :=
  String.ofList (Text.Blank.trim (ended.diagnostics.getD "").toList)

/-- How resolving a workspace can end, by its answer and the host that it leaves. -/
inductive Resolution (manifest : Option Path) (configuration : Option Configuration) (command : String) (host : Host) :
    Except Fault Workspace → Host → Prop
  | unread (error : Error) (unreadable : split command = .error error) :
      Resolution manifest configuration command host (.error (.value (.words error))) host
  | notStarted {words : List String} {after : Host} (error : SystemError)
      (manager : ManagerRuns manifest configuration command host words (.error (.system error)) after) :
      Resolution manifest configuration command host (.error (.bake (.metadata (.notStarted error)))) after
  | impassable {words : List String} {after : Host} (nul : (⟨words, none⟩ : Call).HasNul)
      (manager : ManagerRuns manifest configuration command host words (.error (.value .embeddedNul)) after) :
      Resolution manifest configuration command host (.error (.value .embeddedNul)) after
  | exited {words : List String} {after : Host} (ended : Ended)
      (manager : ManagerRuns manifest configuration command host words (.ok ended) after) (code : ended.code ≠ 0) :
      Resolution manifest configuration command host
        (.error (.bake (.metadata (.exited ended.code ended.shownDiagnostics)))) after
  | undescribed {words : List String} {after : Host} (ended : Ended) (error : DocumentError)
      (manager : ManagerRuns manifest configuration command host words (.ok ended) after) (code : ended.code = 0)
      (read : readDocument Workspace.ofJson ended.output = .error error) :
      Resolution manifest configuration command host (.error (.bake (.metadata (.badDocument error)))) after
  | resolved {words : List String} {after : Host} {value : Json.Value} {workspace : Workspace} (ended : Ended)
      (manager : ManagerRuns manifest configuration command host words (.ok ended) after) (code : ended.code = 0)
      (document : IsDocument ended.output value) (described : IsRecord Workspace.Described value workspace) :
      Resolution manifest configuration command host (.ok workspace) after

section resolution
variable {manifest : Option Path} {configuration : Option Configuration} {command : String} {words : List String}
  {host after : Host} {answer : Except Fault Workspace}

theorem metadataCommand_error {error : Error} (h : split command = .error error) :
    metadataCommand command manifest configuration = .error error := by
  unfold metadataCommand
  rw [h]
  rfl

theorem runs_resolveWorkspace_uncomposed {error : Error}
    (composed : metadataCommand command manifest configuration = .error error) :
    Runs (resolveWorkspace manifest configuration command) host answer after ↔
      answer = .error (.value (.words error)) ∧ after = host := by
  apply Runs.iff
  unfold resolveWorkspace
  rw [composed]
  rfl

theorem runs_resolveWorkspace_unread {error : Error} (h : split command = .error error) :
    Runs (resolveWorkspace manifest configuration command) host answer after ↔
      answer = .error (.value (.words error)) ∧ after = host :=
  runs_resolveWorkspace_uncomposed (metadataCommand_error h)

def askManager (words : List String) : HostM Workspace := do
  let ended ← orElse (startProcess ⟨words, none⟩) fun error => fail (.bake (.metadata (.notStarted error)))
  if ended.code ≠ 0 then fail (.bake (.metadata (.exited ended.code ended.shownDiagnostics)))
  else match parseMetadata ended.output with
    | .ok workspace => pure workspace
    | .error error => fail (.bake error)

theorem resolveWorkspace_eq (h : metadataCommand command manifest configuration = .ok words) :
    resolveWorkspace manifest configuration command = askManager words := by
  unfold resolveWorkspace
  rw [h]
  rfl

theorem managerRuns_of_process (composed : metadataCommand command manifest configuration = .ok words)
    {result : Except Fault Ended} (process : Runs (startProcess ⟨words, none⟩) host result after) :
    ManagerRuns manifest configuration command host words result after := by
  refine ⟨composed, process, ?_⟩
  rw [startProcess_after process]
  rfl

theorem parseMetadata_error {text : String} {error : BakeError} (h : parseMetadata text = .error error) :
    ∃ cause, readDocument Workspace.ofJson text = .error cause ∧ error = .metadata (.badDocument cause) := by
  unfold parseMetadata at h
  cases hread : readDocument Workspace.ofJson text with
  | ok workspace =>
    rw [hread] at h
    cases h
  | error cause =>
    rw [hread] at h
    exact ⟨cause, rfl, (Except.error.inj h).symm⟩

theorem askManager_ends (possible : ∀ outcome ∈ host.outcomes.head?, outcome.Possible)
    (composed : metadataCommand command manifest configuration = .ok words)
    (h : Runs (askManager words) host answer after) : Resolution manifest configuration command host answer after := by
  rcases runs_bind.1 h with ⟨ended, stopped, hstarts, hends⟩ | ⟨fault, hstarts, rfl⟩
  · have hmanager := managerRuns_of_process composed (runs_orElse_fail_ok.1 hstarts)
    split at hends
    · obtain ⟨rfl, rfl⟩ := runs_fail.1 hends
      exact .exited ended hmanager ‹_›
    · have hcode : ended.code = 0 := not_not.1 ‹_›
      cases hparse : parseMetadata ended.output with
      | ok workspace =>
        rw [hparse] at hends
        obtain ⟨rfl, rfl⟩ := runs_pure.1 hends
        obtain ⟨value, hdocument, hdescribed⟩ := parseMetadata_eq_ok.1 hparse
        exact .resolved ended hmanager hcode hdocument hdescribed
      | error error =>
        rw [hparse] at hends
        obtain ⟨rfl, rfl⟩ := runs_fail.1 hends
        obtain ⟨cause, hread, rfl⟩ := parseMetadata_error hparse
        exact .undescribed ended cause hmanager hcode hread
  · rcases runs_orElse_fail_error.1 hstarts with ⟨hprocess, hother⟩ | ⟨error, hprocess, rfl⟩
    · by_cases hnul : (⟨words, none⟩ : Call).HasNul
      · cases ((runs_startProcess_nul hnul).1 hprocess).1
        exact .impassable hnul (managerRuns_of_process composed hprocess)
      · obtain ⟨error, rfl⟩ := startProcess_refuses hnul possible hprocess
        exact absurd rfl (hother error)
    · exact .notStarted error (managerRuns_of_process composed hprocess)

theorem resolution_of_runs (possible : ∀ outcome ∈ host.outcomes.head?, outcome.Possible)
    (h : Runs (resolveWorkspace manifest configuration command) host answer after) :
    Resolution manifest configuration command host answer after := by
  cases hsplit : split command with
  | error error =>
    obtain ⟨rfl, rfl⟩ := (runs_resolveWorkspace_unread hsplit).1 h
    exact .unread error hsplit
  | ok configured =>
    obtain ⟨arguments, hcomposed⟩ := metadataCommand_eq hsplit manifest configuration
    rw [resolveWorkspace_eq hcomposed] at h
    exact askManager_ends possible hcomposed h

theorem run_resolveWorkspace {ended : Ended} {value : Json.Value} {workspace : Workspace}
    (manager : ManagerRuns manifest configuration command host words (.ok ended) after) (code : ended.code = 0)
    (document : IsDocument ended.output value) (described : IsRecord Workspace.Described value workspace) :
    Runs (resolveWorkspace manifest configuration command) host (.ok workspace) after := by
  rw [resolveWorkspace_eq manager.composed]
  refine runs_bind_ok.2 ⟨ended, after, runs_orElse_fail_ok.2 manager.process, ?_⟩
  rw [if_neg (not_not.2 code), parseMetadata_eq_ok.2 ⟨value, document, described⟩]
  exact runs_pure.2 ⟨rfl, rfl⟩

theorem Resolution.ok_iff (h : Resolution manifest configuration command host answer after)
    (runs : Runs (resolveWorkspace manifest configuration command) host answer after) {workspace : Workspace} :
    answer = .ok workspace ↔ ∃ words ended value,
      ManagerRuns manifest configuration command host words (.ok ended) after ∧ ended.code = 0 ∧
      IsDocument ended.output value ∧ IsRecord Workspace.Described value workspace := by
  constructor
  · rintro rfl
    cases h with
    | resolved ended manager code document described => exact ⟨_, ended, _, manager, code, document, described⟩
  · rintro ⟨words, ended, value, manager, code, document, described⟩
    exact (runs.unique (run_resolveWorkspace manager code document described)).1

theorem ManagerRuns.passes {result : Except Fault Ended}
    (h : ManagerRuns manifest configuration command host words result after)
    (other : result ≠ .error (.value .embeddedNul)) :
    ∃ words, metadataCommand command manifest configuration = .ok words ∧ ¬ (⟨words, none⟩ : Call).HasNul :=
  ⟨words, h.composed, fun hnul => other ((runs_startProcess_nul hnul).1 h.process).1⟩

theorem fails_with_metadata {cause : MetadataCause} {fault : Fault}
    (h : (.error (.bake (.metadata cause)) : Except Fault Workspace) = .error fault) :
    ∃ cause, fault = .bake (.metadata cause) := by
  cases h
  exact ⟨cause, rfl⟩

/-- Only words that cannot be read or passed on make resolving fail with something that is no metadata error. -/
theorem Resolution.metadata_iff (h : Resolution manifest configuration command host answer after) :
    (∀ fault, answer = .error fault → ∃ cause, fault = .bake (.metadata cause)) ↔
      ∃ words, metadataCommand command manifest configuration = .ok words ∧ ¬ (⟨words, none⟩ : Call).HasNul := by
  cases h with
  | unread error unreadable =>
    rw [metadataCommand_error unreadable]
    constructor
    · intro hmetadata
      obtain ⟨cause, hcause⟩ := hmetadata _ rfl
      cases hcause
    · rintro ⟨words, hwords, -⟩
      cases hwords
  | impassable nul manager =>
    constructor
    · intro hmetadata
      obtain ⟨cause, hcause⟩ := hmetadata _ rfl
      cases hcause
    · rintro ⟨words, hwords, hpasses⟩
      rw [manager.composed] at hwords
      cases hwords
      exact absurd nul hpasses
  | notStarted error manager => exact iff_of_true (fun _ => fails_with_metadata) (manager.passes nofun)
  | exited ended manager code => exact iff_of_true (fun _ => fails_with_metadata) (manager.passes nofun)
  | undescribed ended error manager code read =>
    exact iff_of_true (fun _ => fails_with_metadata) (manager.passes nofun)
  | resolved ended manager code document described =>
    refine iff_of_true ?_ (manager.passes nofun)
    rintro fault ⟨⟩

end resolution

namespace CommandLine
open CommandM
variable {environment : List (String × String)} {session after : Session}

structure Invocation.Asks (invocation : Invocation "bake" bakeSpecs environment session) (manifest : Option Path)
    (configuration : Option Configuration) (command : String) : Prop where
  manifest : manifestOf invocation.options = manifest
  clean : ∀ text ∈ valueOf? invocation.options "manifest-path", '\x00' ∉ text.toList
  configuration : some (configurationOf invocation.options) = configuration
  command : invocation.settings.packageManager = command

/-- Errors are shown with `--json`, and else if nothing in the message is taken for markup. -/
def Invocation.CanShow (invocation : Invocation "bake" bakeSpecs environment session) (error : BakeError) : Prop :=
  isGiven invocation.options "json" = true ∨ Text.Markup.holdsTag error.message.toList = false

variable {invocation : Invocation "bake" bakeSpecs environment session}

theorem Invocation.Asks.bakes {manifest : Option Path} {configuration : Option Configuration} {command : String}
    (h : invocation.Asks manifest configuration command) {fault : Fault} {host : Host}
    (runs : Runs (resolveWorkspace manifest configuration command) session.host (.error fault) host) :
    ∃ after, invocation.Bakes (.error fault) after := by
  obtain ⟨rfl, hclean, rfl, rfl⟩ := h
  exact ⟨{ session with host := host }, hclean, runs_bind.2 (.inr ⟨fault, runs_onHost.2 ⟨runs, rfl⟩, rfl⟩)⟩

theorem Invocation.exits_of_bakes {error : BakeError} (h : invocation.Bakes (.error (.bake error)) after)
    (shows : invocation.CanShow error) :
    ∃ output, (execute invocation.arguments environment session).1 = .exited 1 output := by
  cases hjson : isGiven invocation.options "json" with
  | true =>
    have hshow := invocation.runs_echo after "" (Json.write .indented .ascii (.object [("error", error.toJson)]))
    have hexecute := h.execute (by rw [hjson]; exact runs_bind.2 (.inl ⟨(), _, hshow, runs_halt.2 ⟨rfl, rfl⟩⟩))
    rw [hexecute]
    exact ⟨_, rfl⟩
  | false =>
    have huntagged := shows.resolve_left (by rw [hjson]; exact Bool.false_ne_true)
    exact (bake_error_prints invocation hjson h).untagged (by simpa using huntagged)

theorem Invocation.crashes_of_bakes {error : ValueError} (h : invocation.Bakes (.error (.value error)) after) :
    (execute invocation.arguments environment session).1 = .crashed (.value error) "" := by
  have hshow : Runs (showAnswer (isGiven invocation.options "json") (.error (.value error)))
      (invocation.printed after "") (.error (.crash (.value error))) (invocation.printed after "") :=
    runs_halt.2 ⟨rfl, rfl⟩
  rw [h.execute hshow]
  rfl

end CommandLine

section outcome
open CommandLine
variable {manifest : Option Path} {configuration : Option Configuration} {command : String} {host after : Host}
  {answer : Except Fault Workspace}

/-- Resolving ends in one of six ways. It gives a workspace exactly when the command could be composed and its process
ended well with a document that describes the workspace, and all its failures are metadata errors exactly when the words
of the command can be read and hold no NUL character. The bake command ends with exit code 1 on such an error that it can
show; a value error, such as that of a command that cannot be read, ends the call unhandled. -/
theorem resolveWorkspace_outcome (possible : ∀ outcome ∈ host.outcomes.head?, outcome.Possible)
    (h : Runs (resolveWorkspace manifest configuration command) host answer after) :
    Resolution manifest configuration command host answer after ∧
    (∀ workspace, answer = .ok workspace ↔ ∃ words ended value,
      ManagerRuns manifest configuration command host words (.ok ended) after ∧ ended.code = 0 ∧
      IsDocument ended.output value ∧ IsRecord Workspace.Described value workspace) ∧
    ((∀ fault, answer = .error fault → ∃ cause, fault = .bake (.metadata cause)) ↔
      ∃ words, metadataCommand command manifest configuration = .ok words ∧ ¬ (⟨words, none⟩ : Call).HasNul) ∧
    ∀ (environment : List (String × String)) (requests : List Request)
      (invocation : Invocation "bake" bakeSpecs environment ⟨host, requests⟩),
      invocation.Asks manifest configuration command →
      (∀ error, answer = .error (.bake error) → invocation.CanShow error →
        ∃ output, (execute invocation.arguments environment ⟨host, requests⟩).1 = .exited 1 output) ∧
      (∀ error, answer = .error (.value error) →
        (execute invocation.arguments environment ⟨host, requests⟩).1 = .crashed (.value error) "") ∧
      ∀ error, split command = .error error →
        (execute invocation.arguments environment ⟨host, requests⟩).1 = .crashed (.value (.words error)) "" := by
  have hends := resolution_of_runs possible h
  refine ⟨hends, fun workspace => hends.ok_iff h, hends.metadata_iff, ?_⟩
  intro environment requests invocation asks
  have hcrashes : ∀ error, answer = .error (.value error) →
      (execute invocation.arguments environment ⟨host, requests⟩).1 = .crashed (.value error) "" := by
    rintro error rfl
    obtain ⟨session, hbakes⟩ := asks.bakes h
    exact Invocation.crashes_of_bakes hbakes
  refine ⟨?_, hcrashes, fun error unreadable => hcrashes _ ((runs_resolveWorkspace_unread unreadable).1 h).1⟩
  rintro error rfl shows
  obtain ⟨session, hbakes⟩ := asks.bakes h
  exact Invocation.exits_of_bakes hbakes shows

end outcome

namespace Minimal
open CommandLine

theorem possible_printed : ∀ outcome ∈ (session [.ended 0 printed none []]).host.outcomes.head?, outcome.Possible := by
  rintro outcome ⟨⟩ file hfile
  cases hfile

theorem possible_none : ∀ outcome ∈ (session []).host.outcomes.head?, outcome.Possible := nofun

theorem resolving_fails : Runs (resolveWorkspace none (some (configurationOf [])) "cargo") (session []).host
    (.error (.bake missing)) (called []).host := rfl

theorem textBake_asks : (textBake []).Asks none (some (configurationOf [])) "cargo" := ⟨rfl, nofun, rfl, rfl⟩

theorem canShow_missing : (textBake []).CanShow missing := .inr (by decide +kernel)

def misquoted : List (String × String) := [("GUEST_BAKE_CARGO_COMMAND", "cargo '")]

theorem misquoted_asks : ∃ invocation : Invocation "bake" bakeSpecs misquoted (session []),
    invocation.arguments = ["bake"] ∧ invocation.Asks none (some (configurationOf [])) "cargo '" := by
  refine ⟨?_, ?_, ?_⟩
  · exact {
      arguments := ["bake"]
      given := []
      rest := []
      options := []
      dotenv := none
      settings := { packageManager := "cargo '" }
      reads := rfl
      plain := List.forall_mem_nil _
      readsOptions := rfl
      noHelp := rfl
      isDotenv := isDotenv []
      isLoaded := rfl
      isLevel := by decide }
  · rfl
  · refine ⟨rfl, ?_, rfl, rfl⟩
    rintro text ⟨⟩

end Minimal

open CommandLine in
theorem resolveWorkspace_outcome_minimal :
    (∃ words ended value, ManagerRuns none (some (configurationOf [])) "cargo"
      (Minimal.session [.ended 0 Minimal.printed none []]).host words (.ok ended) (Minimal.called []).host ∧
      ended.code = 0 ∧ IsDocument ended.output value ∧ IsRecord Workspace.Described value Minimal.workspace) ∧
    Resolution none (some (configurationOf [])) "cargo" (Minimal.session []).host (.error (.bake Minimal.missing))
      (Minimal.called []).host ∧
    (∃ output, (execute ["bake"] [] (Minimal.session [])).1 = .exited 1 output) ∧
    ∃ after fault, Runs (resolveWorkspace none none "cargo\x00") (Minimal.session []).host (.error fault) after ∧
      ∀ cause, fault ≠ .bake (.metadata cause) := by
  have hresolves := Minimal.resolves Minimal.parseMetadata_document []
  obtain ⟨-, hresolved, -⟩ := resolveWorkspace_outcome Minimal.possible_printed hresolves
  obtain ⟨hends, -, -, hshown⟩ := resolveWorkspace_outcome Minimal.possible_none Minimal.resolving_fails
  obtain ⟨hexits, -⟩ := hshown [] [] (Minimal.textBake []) Minimal.textBake_asks
  obtain ⟨answer, after, hruns⟩ := Runs.exists (resolveWorkspace none none "cargo\x00") (Minimal.session []).host
  obtain ⟨-, -, hmetadata, -⟩ := resolveWorkspace_outcome Minimal.possible_none hruns
  refine ⟨(hresolved _).1 rfl, hends, hexits _ rfl Minimal.canShow_missing, after, ?_⟩
  have hcomposed : metadataCommand "cargo\x00" none none = .ok ["cargo\x00", "metadata", "--format-version", "1"] := by
    decide +kernel
  have hnul : (⟨["cargo\x00", "metadata", "--format-version", "1"], none⟩ : Call).HasNul := by decide +kernel
  have hescapes : ¬ ∀ fault, answer = .error fault → ∃ cause, fault = .bake (.metadata cause) := by
    rw [hmetadata]
    rintro ⟨words, hwords, hpasses⟩
    rw [hcomposed] at hwords
    cases hwords
    exact hpasses hnul
  push Not at hescapes
  obtain ⟨fault, rfl, hother⟩ := hescapes
  exact ⟨fault, hruns, hother⟩

open CommandLine in
/-- No metadata error comes of a quote that is not closed, and the bake command ends unhandled. -/
theorem unclosed_quote_escapes :
    Runs (resolveWorkspace none (some (configurationOf [])) "cargo '") (Minimal.session []).host
      (.error (.value (.words .noClosingQuotation))) (Minimal.session []).host ∧
    (∀ cause, Fault.value (.words .noClosingQuotation) ≠ .bake (.metadata cause)) ∧
    (execute ["bake"] Minimal.misquoted (Minimal.session [])).1 =
      .crashed (.value (.words .noClosingQuotation)) "" := by
  have hruns : Runs (resolveWorkspace none (some (configurationOf [])) "cargo '") (Minimal.session []).host
      (.error (.value (.words .noClosingQuotation))) (Minimal.session []).host := rfl
  obtain ⟨invocation, harguments, hasks⟩ := Minimal.misquoted_asks
  obtain ⟨after, hbakes⟩ := hasks.bakes hruns
  have hcrashes := Invocation.crashes_of_bakes hbakes
  rw [harguments] at hcrashes
  exact ⟨hruns, nofun, hcrashes⟩

end GuestForge
