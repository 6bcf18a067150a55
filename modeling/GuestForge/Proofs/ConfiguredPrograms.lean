import GuestForge.Proofs.CommandForms
import GuestForge.Proofs.Resolution
set_option autoImplicit false

/-!
# The programs that are started

The words of a configured command come first in what is started for it, so its first word is the program, unless it has
no word at all. That is so exactly for a command of nothing but blanks: then the word that follows, the name of a
subcommand, is taken for the program.
-/
namespace GuestForge.Text.ShellWords

theorem map_cons_ne_nil (word : List Char) (read : Except Error (List (List Char))) :
    read.map (word :: ·) ≠ .ok [] := by
  cases read <;> simp [Except.map]

/-- A reader that is inside a word ends with a word. -/
theorem splitFrom_ne_nil {mode : Mode} (h : mode ≠ .between) (word rest : List Char) :
    splitFrom mode word rest ≠ .ok [] := by
  induction rest generalizing mode word with
  | nil => cases mode <;> simp [splitFrom] at h ⊢
  | cons c rest ih =>
    cases mode with
    | between => exact absurd rfl h
    | bare =>
      rw [splitFrom]
      split
      · exact map_cons_ne_nil word _
      · split_ifs <;> exact ih (by decide) _
    | single => rw [splitFrom]; split_ifs <;> exact ih (by decide) _
    | double => rw [splitFrom]; split_ifs <;> exact ih (by decide) _
    | bareEscape => exact ih (by decide) _
    | doubleEscape => exact ih (by decide) _

theorem splitFrom_eq_nil_iff {rest : List Char} :
    splitFrom .between [] rest = .ok [] ↔ ∀ c ∈ rest, isBlank c = true := by
  induction rest with
  | nil => exact iff_of_true rfl (List.forall_mem_nil _)
  | cons c rest ih =>
    rw [List.forall_mem_cons, splitFrom]
    by_cases hblank : isBlank c = true
    · rw [if_pos hblank, ih]
      exact (and_iff_right hblank).symm
    · rw [if_neg hblank]
      refine iff_of_false ?_ fun h => hblank h.1
      split_ifs <;> exact splitFrom_ne_nil (by decide) _ _

def IsBlankLine (line : String) : Prop := ∀ c ∈ line.toList, isBlank c = true

theorem split_eq_nil_iff {line : String} : split line = .ok [] ↔ IsBlankLine line := by
  rw [IsBlankLine, ← splitFrom_eq_nil_iff, split]
  cases splitFrom .between [] line.toList <;> simp [Except.map]

end GuestForge.Text.ShellWords

namespace GuestForge
open HostM External
open Text.ShellWords (Error split IsBlankLine split_eq_nil_iff)

/-- The program of a call is that of the command that it was composed from, unless that is blank. -/
theorem program_of_call {command : String} {words : List String} (h : split command = .ok words) (subcommand : String)
    (arguments : List String) :
    ((words ++ subcommand :: arguments).head? = words.head? ↔ ¬ IsBlankLine command) ∧
      (IsBlankLine command → (words ++ subcommand :: arguments).head? = some subcommand) := by
  have hblank : words = [] ↔ IsBlankLine command := by
    rw [← split_eq_nil_iff, h, Except.ok.injEq]
  rw [← hblank]
  cases words with
  | nil => simp
  | cons word others => simp

section runs
variable {command : String} {call : List String} {host after : Host}

theorem calls_resolveWorkspace {manifest : Option Path} {configuration : Option Configuration}
    (composed : metadataCommand command manifest configuration = .ok call) {answer : Except Fault Workspace}
    (h : Runs (resolveWorkspace manifest configuration command) host answer after) :
    after.calls = host.calls ++ [⟨call, none⟩] := by
  rw [resolveWorkspace_eq composed] at h
  have hstarted : ∀ {result : Except Fault Ended} {stopped : Host}, Runs (startProcess ⟨call, none⟩) host result stopped →
      stopped.calls = host.calls ++ [⟨call, none⟩] := fun process => (managerRuns_of_process composed process).calls
  rcases runs_bind.1 h with ⟨ended, stopped, hstarts, hends⟩ | ⟨fault, hstarts, -⟩
  · have hsame : after = stopped := by
      split at hends
      · exact (runs_fail.1 hends).2
      · cases hparse : parseMetadata ended.output with
        | ok workspace =>
          rw [hparse] at hends
          exact (runs_pure.1 hends).2
        | error error =>
          rw [hparse] at hends
          exact (runs_fail.1 hends).2
    rw [hsame]
    exact hstarted (runs_orElse_fail_ok.1 hstarts)
  · rcases runs_orElse_fail_error.1 hstarts with ⟨hprocess, -⟩ | ⟨error, hprocess, -⟩
    · exact hstarted hprocess
    · exact hstarted hprocess

theorem calls_builder {package : Package} {targetDirectory : Path} {options : GuestOptions}
    (composed : builderCommand command package targetDirectory options = .ok call)
    {answer : Except Fault (List BuiltGuest)}
    (h : Runs (builder command package targetDirectory options) host answer after) :
    after.calls = host.calls ∨ after.calls = host.calls ++ [⟨call, some package.directory⟩] := by
  rcases builder_records composed h with hunrecorded | hrecorded
  · exact .inl hunrecorded.calls
  · obtain ⟨-, -, -, -, -, hcalls, -⟩ := hrecorded
    exact .inr hcalls

end runs

/-- What is started begins with the words of the configured command, and is nothing but the composed call. Its program is
the configured one exactly if the command is not blank; else it is the subcommand. -/
theorem configured_program_runs_iff (command : String) :
    (∀ manifest configuration call, metadataCommand command manifest configuration = .ok call →
      ∃ words, split command = .ok words ∧
        call = words ++ (["metadata", "--format-version", "1"] ++
          (manifestWords manifest ++ (configuration.getD {}).words)) ∧
        (call.head? = words.head? ↔ ¬ IsBlankLine command) ∧ (IsBlankLine command → call.head? = some "metadata") ∧
        ∀ host answer after, Runs (resolveWorkspace manifest configuration command) host answer after →
          after.calls = host.calls ++ [⟨call, none⟩]) ∧
    ∀ package targetDirectory options call, builderCommand command package targetDirectory options = .ok call →
      ∃ words, split command = .ok words ∧
        call = words ++ (["build", "--manifest-path", package.manifest.toString, "--target-dir",
          targetDirectory.toString] ++
          (featureWords options.features ++ (containerWords options.dockerRoot ++ ["--message-format", "json"]))) ∧
        (call.head? = words.head? ↔ ¬ IsBlankLine command) ∧ (IsBlankLine command → call.head? = some "build") ∧
        ∀ host answer after, Runs (builder command package targetDirectory options) host answer after →
          after.calls = host.calls ∨ after.calls = host.calls ++ [⟨call, some package.directory⟩] := by
  constructor
  · intro manifest configuration call composed
    obtain ⟨words, hsplit, rfl⟩ := metadataCommand_eq_ok.1 composed
    obtain ⟨hprogram, hsubcommand⟩ := program_of_call hsplit "metadata"
      (["--format-version", "1"] ++ (manifestWords manifest ++ (configuration.getD {}).words))
    exact ⟨words, hsplit, rfl, hprogram, hsubcommand, fun _ _ _ => calls_resolveWorkspace composed⟩
  · intro package targetDirectory options call composed
    obtain ⟨words, hsplit, rfl⟩ := builderCommand_eq_ok.1 composed
    obtain ⟨hprogram, hsubcommand⟩ := program_of_call hsplit "build"
      (["--manifest-path", package.manifest.toString, "--target-dir", targetDirectory.toString] ++
        (featureWords options.features ++ (containerWords options.dockerRoot ++ ["--message-format", "json"])))
    exact ⟨words, hsplit, rfl, hprogram, hsubcommand, fun _ _ _ => calls_builder composed⟩

/-- A command with an argument of its own, and one whose only word is empty, which is still the program. -/
theorem configured_program_runs_iff_minimal :
    (∃ call words, metadataCommand "cargo +nightly" none none = .ok call ∧ split "cargo +nightly" = .ok words ∧
      ¬ IsBlankLine "cargo +nightly" ∧ call.head? = words.head? ∧
      ∀ answer after, Runs (resolveWorkspace none none "cargo +nightly") (Minimal.session []).host answer after →
        after.calls = [⟨call, none⟩]) ∧
    ∃ call, builderCommand "''" Small.package Small.result.targetDirectory {} = .ok call ∧ ¬ IsBlankLine "''" ∧
      split "''" = .ok [""] ∧ call.head? = some "" := by
  constructor
  · have composed : metadataCommand "cargo +nightly" none none =
        .ok ["cargo", "+nightly", "metadata", "--format-version", "1"] := by decide +kernel
    have hvisible : ¬ IsBlankLine "cargo +nightly" := fun hblank => absurd (hblank 'c' (by decide +kernel)) (by decide)
    obtain ⟨words, hsplit, -, hprogram, -, hcalls⟩ := (configured_program_runs_iff "cargo +nightly").1 _ _ _ composed
    exact ⟨_, words, composed, hsplit, hvisible, hprogram.2 hvisible, fun answer after => hcalls _ answer after⟩
  · have hwords : split "''" = .ok [""] := by decide +kernel
    have composed := builderCommand_words hwords Small.package Small.result.targetDirectory {}
    have hvisible : ¬ IsBlankLine "''" := fun hblank => absurd (hblank '\'' (by decide +kernel)) (by decide)
    obtain ⟨words, hsplit, -, hprogram, -⟩ := (configured_program_runs_iff "''").2 _ _ _ _ composed
    rw [hwords, Except.ok.injEq] at hsplit
    subst hsplit
    exact ⟨_, composed, hvisible, hwords, hprogram.2 hvisible⟩

namespace Minimal
open CommandLine

def blanked : List (String × String) := [("GUEST_BAKE_CARGO_COMMAND", "")]

def misled : Session := { host := (session []).host.called ⟨["metadata", "--format-version", "1"], none⟩ }

def unknown : BakeError :=
  .metadata (.notStarted (.os ErrorCode.noEntry.number ErrorCode.noEntry.reason (some "metadata")))

theorem blankBake_fails : ∃ invocation : Invocation "bake" bakeSpecs blanked (session []),
    invocation.arguments = ["bake", "--json"] ∧ isGiven invocation.options "json" = true ∧
    invocation.Bakes (.error (.bake unknown)) misled := by
  refine ⟨?_, ?_, ?_, ?_⟩
  · exact {
      arguments := ["bake", "--json"]
      given := []
      rest := ["--json"]
      options := [⟨"json", ""⟩]
      dotenv := none
      settings := { packageManager := "" }
      reads := rfl
      plain := List.forall_mem_nil _
      readsOptions := rfl
      noHelp := rfl
      isDotenv := isDotenv []
      isLoaded := rfl
      isLevel := by decide }
  · rfl
  · rfl
  · exact ⟨nofun, rfl⟩

end Minimal

open CommandLine in
/-- A command that is set to nothing has no words, and makes a program of the subcommand. -/
theorem blank_command_starts_subcommand :
    split "" = .ok [] ∧ metadataCommand "" none none = .ok ["metadata", "--format-version", "1"] ∧
    builderCommand "" Small.package Small.result.targetDirectory {} =
      .ok ["build", "--manifest-path", "/w/Cargo.toml", "--target-dir", "/t/guest", "--message-format", "json"] ∧
    (execute ["bake", "--json"] Minimal.blanked (Minimal.session [])).2.host.calls =
      [⟨["metadata", "--format-version", "1"], none⟩] := by
  obtain ⟨invocation, harguments, hjson, hbakes⟩ := Minimal.blankBake_fails
  have hshow := invocation.runs_echo Minimal.misled ""
    (Json.write .indented .ascii (.object [("error", Minimal.unknown.toJson)]))
  have hexecute := hbakes.execute (by rw [hjson]; exact runs_bind.2 (.inl ⟨(), _, hshow, runs_halt.2 ⟨rfl, rfl⟩⟩))
  rw [harguments] at hexecute
  refine ⟨by decide +kernel, by decide +kernel, by decide +kernel, ?_⟩
  rw [hexecute]
  rfl

end GuestForge
