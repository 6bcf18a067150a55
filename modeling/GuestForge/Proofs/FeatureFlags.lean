import GuestForge.Proofs.CommandForms
set_option autoImplicit false

/-!
# The features that command lines ask for

The words behind the name of a tool are read back one option at a time, so a path or a feature that looks like a flag
is not taken for one. The call that resolves a workspace asks for all that the configuration says about features; the
call that builds a package asks for the listed features only.
-/
namespace GuestForge
open Text.ShellWords (Error split)

/-- What a command line says about features: the word behind `--features`, and the two flags. -/
structure FeatureFlags where
  features : Option String := none
  allFeatures : Bool := false
  noDefaultFeatures : Bool := false
  deriving DecidableEq

def FeatureFlags.listing (features : List String) : FeatureFlags :=
  { features := if features = [] then none else some (",".intercalate features) }

def Configuration.flags (configuration : Configuration) : FeatureFlags :=
  { FeatureFlags.listing configuration.features with
    allFeatures := configuration.allFeatures
    noDefaultFeatures := configuration.noDefaultFeatures }

namespace FeatureFlags

def valued : List String :=
  ["--features", "--manifest-path", "--target-dir", "--docker-root", "--format-version", "--message-format"]

def withValue (flags : FeatureFlags) (option value : String) : FeatureFlags :=
  if option = "--features" then { flags with features := some value } else flags

def withWord (flags : FeatureFlags) (word : String) : FeatureFlags :=
  if word = "--all-features" then { flags with allFeatures := true }
  else if word = "--no-default-features" then { flags with noDefaultFeatures := true }
  else flags

def read : List String → FeatureFlags
  | [] => {}
  | [word] => withWord {} word
  | word :: value :: rest =>
    if word ∈ valued then (read rest).withValue word value else (read (value :: rest)).withWord word

theorem read_option {option : String} (h : option ∈ valued) (value : String) (rest : List String) :
    read (option :: value :: rest) = (read rest).withValue option value := by
  rw [read, if_pos h]

theorem read_word {word : String} (h : word ∉ valued) (rest : List String) :
    read (word :: rest) = (read rest).withWord word := by
  cases rest with
  | nil => rfl
  | cons value rest => rw [read, if_neg h]

theorem read_plain {word : String} (h : word ∉ valued) (hall : word ≠ "--all-features")
    (hdefault : word ≠ "--no-default-features") (rest : List String) : read (word :: rest) = read rest := by
  rw [read_word h, withWord, if_neg hall, if_neg hdefault]

theorem read_other {option : String} (h : option ∈ valued) (hfeatures : option ≠ "--features") (value : String)
    (rest : List String) : read (option :: value :: rest) = read rest := by
  rw [read_option h, withValue, if_neg hfeatures]

theorem read_featureWords (features : List String) (rest : List String) :
    read (featureWords features ++ rest) =
      if features = [] then read rest else { read rest with features := some (",".intercalate features) } := by
  by_cases hnil : features = []
  · rw [featureWords, if_pos hnil, if_pos hnil, List.nil_append]
  · rw [featureWords, if_neg hnil, if_neg hnil]
    exact read_option (by decide) _ rest

theorem read_configuration (configuration : Configuration) : read configuration.words = configuration.flags := by
  obtain ⟨features, allFeatures, noDefaultFeatures, docker⟩ := configuration
  unfold Configuration.words Configuration.flags listing
  rw [List.append_assoc, read_featureWords]
  -- The flags stand behind the list, in one order, so each of the eight forms reads back by evaluation.
  cases allFeatures <;> cases noDefaultFeatures <;> split <;> rfl

theorem read_guestOptions (options : GuestOptions) :
    read (featureWords options.features ++ (containerWords options.dockerRoot ++ ["--message-format", "json"])) =
      listing options.features := by
  have hcontainer : read (containerWords options.dockerRoot ++ ["--message-format", "json"]) = {} := by
    cases options.dockerRoot with
    | none => rfl
    | some root =>
      change read ("--docker" :: "--docker-root" :: root.toString :: ["--message-format", "json"]) = _
      rw [read_plain (by decide) (by decide) (by decide), read_other (by decide) (by decide)]
      rfl
  rw [read_featureWords, hcontainer, listing]
  split <;> rfl

end FeatureFlags

open FeatureFlags

section commands
variable {command : String} {words : List String}

theorem metadataCommand_reads (h : split command = .ok words) (manifest : Option Path) (configuration : Configuration) :
    ∃ options, metadataCommand command manifest (some configuration) = .ok (words ++ options) ∧
      read options = configuration.flags := by
  refine ⟨_, metadataCommand_words h manifest (some configuration), ?_⟩
  have hmanifest : read (manifestWords manifest ++ configuration.words) = read configuration.words := by
    cases manifest with
    | none => rfl
    | some path => exact read_other (by decide) (by decide) path.toString configuration.words
  rw [← read_configuration, ← hmanifest]
  change read ("metadata" :: "--format-version" :: "1" :: (manifestWords manifest ++ configuration.words)) = _
  rw [read_plain (by decide) (by decide) (by decide), read_other (by decide) (by decide)]

theorem builderCommand_reads (h : split command = .ok words) (package : Package) (targetDirectory : Path)
    (options : GuestOptions) :
    ∃ rest, builderCommand command package targetDirectory options = .ok (words ++ rest) ∧
      read rest = listing options.features := by
  refine ⟨_, builderCommand_words h package targetDirectory options, ?_⟩
  rw [← read_guestOptions]
  change read ("build" :: "--manifest-path" :: _ :: "--target-dir" :: _ ::
    (featureWords options.features ++ (containerWords options.dockerRoot ++ ["--message-format", "json"]))) = _
  rw [read_plain (by decide) (by decide) (by decide), read_other (by decide) (by decide),
    read_other (by decide) (by decide)]

end commands

/-- Both calls name the same features, but only the one that resolves the workspace carries the flags: the two ask
for the same exactly when no flag is set. -/
theorem commands_same_features_iff {cargo tool : String} {cargoWords toolWords : List String}
    (hcargo : split cargo = .ok cargoWords) (htool : split tool = .ok toolWords) (configuration : Configuration)
    (manifest : Option Path) (package : Package) (targetDirectory root : Path) :
    ∃ resolving building, metadataCommand cargo manifest (some configuration) = .ok (cargoWords ++ resolving) ∧
      builderCommand tool package targetDirectory (configuration.guestOptions root) = .ok (toolWords ++ building) ∧
      read resolving = configuration.flags ∧ read building = listing configuration.features ∧
      (read building = read resolving ↔
        configuration.allFeatures = false ∧ configuration.noDefaultFeatures = false) := by
  obtain ⟨resolving, hmetadata, hresolving⟩ := metadataCommand_reads hcargo manifest configuration
  obtain ⟨building, hbuilder, hbuilding⟩ :=
    builderCommand_reads htool package targetDirectory (configuration.guestOptions root)
  refine ⟨resolving, building, hmetadata, hbuilder, hresolving, hbuilding, ?_⟩
  rw [hbuilding, hresolving, Configuration.flags, FeatureFlags.mk.injEq]
  constructor
  · rintro ⟨-, hall, hdefault⟩
    exact ⟨hall.symm, hdefault.symm⟩
  · rintro ⟨hall, hdefault⟩
    exact ⟨rfl, hall.symm, hdefault.symm⟩

theorem commands_same_features_small : ∃ resolving building,
    metadataCommand "cargo +stable" none (some { features := ["a", "b"] }) = .ok (["cargo", "+stable"] ++ resolving) ∧
    builderCommand "tool" Small.package Small.result.targetDirectory { features := ["a", "b"] } =
      .ok (["tool"] ++ building) ∧
    read resolving = { features := some "a,b" } ∧ read building = read resolving := by
  have hcargo : split "cargo +stable" = .ok ["cargo", "+stable"] := by decide +kernel
  have htool : split "tool" = .ok ["tool"] := by decide +kernel
  obtain ⟨resolving, building, hmetadata, hbuilder, hresolving, -, hsame⟩ :=
    commands_same_features_iff hcargo htool { features := ["a", "b"] } none Small.package
      Small.result.targetDirectory Small.workspace.root
  exact ⟨resolving, building, hmetadata, hbuilder, hresolving, hsame.2 ⟨rfl, rfl⟩⟩

/-- A workspace resolved with all features and without the default ones is built with neither flag. -/
theorem flags_not_forwarded : ∃ resolving building,
    metadataCommand "cargo" none (some { allFeatures := true, noDefaultFeatures := true }) =
      .ok ("cargo" :: resolving) ∧
    builderCommand "tool" Small.package Small.result.targetDirectory
      (({ allFeatures := true, noDefaultFeatures := true } : Configuration).guestOptions Small.workspace.root) =
      .ok ("tool" :: building) ∧
    "--all-features" ∈ resolving ∧ "--all-features" ∉ building ∧
    "--no-default-features" ∈ resolving ∧ "--no-default-features" ∉ building :=
  ⟨["metadata", "--format-version", "1", "--all-features", "--no-default-features"],
    ["build", "--manifest-path", "/w/Cargo.toml", "--target-dir", "/t/guest", "--message-format", "json"],
    by decide +kernel, by decide +kernel, by decide, by decide, by decide, by decide⟩

end GuestForge
