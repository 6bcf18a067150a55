import GuestForge.Build.Command
import GuestForge.Proofs.PathText
import GuestForge.Proofs.Recipes
set_option autoImplicit false

/-!
# Command lines tell their parts apart

A command line is a fixed beginning and then options, each of which stands in one place or is left out. Since what
follows an option never begins with the flag of that option, two equal command lines agree on every option in turn,
whatever their values look like. Only features that hold commas can be joined to the same word in two ways.
-/
namespace GuestForge
open Text.ShellWords (Error split)

def OptionalWords (flag : String) (count : Nat) (words : List String) : Prop :=
  words = [] ∨ words.head? = some flag ∧ words.length = count

namespace OptionalWords
variable {flag : String} {count : Nat} {words words' rest rest' : List String}

/-- What the words begin with that follow another option. -/
theorem head?_append (h : OptionalWords flag count words) (rest : List String) :
    (words ++ rest).head? = some flag ∨ (words ++ rest).head? = rest.head? := by
  rcases h with rfl | ⟨hhead, -⟩
  · exact .inr rfl
  · exact .inl (by rw [List.head?_append, hhead]; rfl)

theorem head?_append_ne (h : OptionalWords flag count words) {other : String} (hflag : flag ≠ other)
    (hrest : rest.head? ≠ some other) : (words ++ rest).head? ≠ some other := by
  rcases h.head?_append rest with hhead | hhead
  · rw [hhead]
    exact fun heq => hflag (Option.some.inj heq)
  · rwa [hhead]

/-- An option that is left out is not mistaken for one that is given, if what follows does not begin with its flag. -/
theorem cancel (h : OptionalWords flag count words) (h' : OptionalWords flag count words')
    (hrest : rest.head? ≠ some flag) (hrest' : rest'.head? ≠ some flag) :
    words ++ rest = words' ++ rest' ↔ words = words' ∧ rest = rest' := by
  constructor
  · intro heq
    rcases h with rfl | ⟨hhead, hlength⟩ <;> rcases h' with rfl | ⟨hhead', hlength'⟩
    · exact ⟨rfl, heq⟩
    · rw [List.nil_append] at heq
      rw [heq, List.head?_append, hhead'] at hrest
      exact absurd rfl hrest
    · rw [List.nil_append] at heq
      rw [← heq, List.head?_append, hhead] at hrest'
      exact absurd rfl hrest'
    · exact List.append_inj heq (hlength.trans hlength'.symm)
  · rintro ⟨rfl, rfl⟩
    rfl

end OptionalWords

def manifestWords : Option Path → List String
  | some path => ["--manifest-path", path.toString]
  | none => []

def containerWords : Option Path → List String
  | some root => ["--docker", "--docker-root", root.toString]
  | none => []

def flagWords (flag : String) (isSet : Bool) : List String := if isSet then [flag] else []

theorem optionalWords_features (features : List String) : OptionalWords "--features" 2 (featureWords features) := by
  unfold featureWords
  split
  · exact .inl rfl
  · exact .inr ⟨rfl, rfl⟩

theorem optionalWords_manifest (manifest : Option Path) : OptionalWords "--manifest-path" 2 (manifestWords manifest) := by
  cases manifest with
  | none => exact .inl rfl
  | some path => exact .inr ⟨rfl, rfl⟩

theorem optionalWords_flag (flag : String) (isSet : Bool) : OptionalWords flag 1 (flagWords flag isSet) := by
  cases isSet with
  | false => exact .inl rfl
  | true => exact .inr ⟨rfl, rfl⟩

theorem manifestWords_inj {manifest manifest' : Option Path} :
    manifestWords manifest = manifestWords manifest' ↔ manifest = manifest' := by
  cases manifest <;> cases manifest' <;> simp [manifestWords, Path.toString_injective.eq_iff]

theorem containerWords_inj {root root' : Option Path} : containerWords root = containerWords root' ↔ root = root' := by
  cases root <;> cases root' <;> simp [containerWords, Path.toString_injective.eq_iff]

theorem flagWords_inj {flag : String} {isSet isSet' : Bool} :
    flagWords flag isSet = flagWords flag isSet' ↔ isSet = isSet' := by
  cases isSet <;> cases isSet' <;> simp [flagWords]

def CommaFree (features : List String) : Prop := ∀ feature ∈ features, ',' ∉ feature.toList

instance (features : List String) : Decidable (CommaFree features) :=
  inferInstanceAs (Decidable (∀ feature ∈ features, ',' ∉ feature.toList))

theorem splitOn_join {features : List String} (h : CommaFree features) (hnil : features ≠ []) :
    (",".intercalate features).toList.splitOn ',' = features.map String.toList := by
  rw [String.toList_intercalate]
  refine List.splitOn_intercalate ',' ?_ (by simpa using hnil)
  intro text htext
  obtain ⟨feature, hfeature, rfl⟩ := List.mem_map.1 htext
  exact h feature hfeature

theorem featureWords_inj {features features' : List String} (h : CommaFree features) (h' : CommaFree features') :
    featureWords features = featureWords features' ↔ features = features' := by
  constructor
  · intro heq
    unfold featureWords at heq
    split at heq <;> split at heq
    · subst_vars
      rfl
    · cases heq
    · cases heq
    · rename_i hnil hnil'
      have hjoined : ",".intercalate features = ",".intercalate features' := by simpa using heq
      have hsplit := splitOn_join h hnil
      rw [hjoined, splitOn_join h' hnil'] at hsplit
      exact ((List.map_inj_right fun _ _ => String.toList_inj.1).1 hsplit).symm
  · rintro rfl
    rfl

/-- A comma inside a feature is not told from one between two of them. -/
example : featureWords ["a,b"] = featureWords ["a", "b"] := by decide +kernel

section commands
variable {command : String} {words : List String}

theorem Configuration.words_eq (configuration : Configuration) : configuration.words =
    featureWords configuration.features ++ (flagWords "--all-features" configuration.allFeatures ++
      flagWords "--no-default-features" configuration.noDefaultFeatures) := List.append_assoc ..

theorem metadataCommand_words (h : split command = .ok words) (manifest : Option Path)
    (configuration : Option Configuration) : metadataCommand command manifest configuration =
      .ok (words ++ (["metadata", "--format-version", "1"] ++
        (manifestWords manifest ++ (configuration.getD {}).words))) := by
  have hconfiguration : (configuration.map Configuration.words).getD [] = (configuration.getD {}).words := by
    cases configuration <;> rfl
  unfold metadataCommand
  rw [h, hconfiguration, ← List.append_assoc, ← List.append_assoc]
  cases manifest <;> rfl

theorem builderCommand_words (h : split command = .ok words) (package : Package) (targetDirectory : Path)
    (options : GuestOptions) : builderCommand command package targetDirectory options =
      .ok (words ++ (["build", "--manifest-path", package.manifest.toString, "--target-dir", targetDirectory.toString] ++
        (featureWords options.features ++ (containerWords options.dockerRoot ++ ["--message-format", "json"])))) := by
  have hoptions : options.words = featureWords options.features ++ containerWords options.dockerRoot := by
    obtain ⟨features, _ | root⟩ := options <;> rfl
  unfold builderCommand
  rw [h, hoptions]
  simp only [← List.append_assoc]
  rfl

/-- A call that resolves a workspace is composed if the words of the command can be read, which come first in it. -/
theorem metadataCommand_eq_ok {manifest : Option Path} {configuration : Option Configuration} {call : List String} :
    metadataCommand command manifest configuration = .ok call ↔ ∃ words, split command = .ok words ∧
      call = words ++ (["metadata", "--format-version", "1"] ++
        (manifestWords manifest ++ (configuration.getD {}).words)) := by
  constructor
  · intro hcall
    cases hsplit : split command with
    | ok words =>
      rw [metadataCommand_words hsplit] at hcall
      exact ⟨words, rfl, (Except.ok.inj hcall).symm⟩
    | error error =>
      unfold metadataCommand at hcall
      rw [hsplit] at hcall
      cases hcall
  · rintro ⟨words, hsplit, rfl⟩
    exact metadataCommand_words hsplit manifest configuration

theorem builderCommand_eq_ok {package : Package} {targetDirectory : Path} {options : GuestOptions}
    {call : List String} :
    builderCommand command package targetDirectory options = .ok call ↔ ∃ words, split command = .ok words ∧
      call = words ++ (["build", "--manifest-path", package.manifest.toString, "--target-dir",
        targetDirectory.toString] ++
        (featureWords options.features ++ (containerWords options.dockerRoot ++ ["--message-format", "json"]))) := by
  constructor
  · intro hcall
    cases hsplit : split command with
    | ok words =>
      rw [builderCommand_words hsplit] at hcall
      exact ⟨words, rfl, (Except.ok.inj hcall).symm⟩
    | error error =>
      unfold builderCommand at hcall
      rw [hsplit] at hcall
      cases hcall
  · rintro ⟨words, hsplit, rfl⟩
    exact builderCommand_words hsplit package targetDirectory options

theorem Configuration.words_inj {configuration configuration' : Configuration}
    (h : CommaFree configuration.features) (h' : CommaFree configuration'.features) :
    configuration.words = configuration'.words ↔ configuration.features = configuration'.features ∧
      configuration.allFeatures = configuration'.allFeatures ∧
      configuration.noDefaultFeatures = configuration'.noDefaultFeatures := by
  have hdefault : ∀ isSet, (flagWords "--no-default-features" isSet).head? ≠ some "--all-features" := by decide
  have hfeatures : ∀ isSet isSet', (flagWords "--all-features" isSet ++
      flagWords "--no-default-features" isSet').head? ≠ some "--features" := by decide
  rw [words_eq, words_eq, (optionalWords_features _).cancel (optionalWords_features _) (hfeatures _ _) (hfeatures _ _),
    (optionalWords_flag _ _).cancel (optionalWords_flag _ _) (hdefault _) (hdefault _), featureWords_inj h h',
    flagWords_inj, flagWords_inj]

theorem metadataWords_inj {manifest manifest' : Option Path} {configuration configuration' : Configuration}
    (h : CommaFree configuration.features) (h' : CommaFree configuration'.features) :
    manifestWords manifest ++ configuration.words = manifestWords manifest' ++ configuration'.words ↔
      manifest = manifest' ∧ configuration.features = configuration'.features ∧
      configuration.allFeatures = configuration'.allFeatures ∧
      configuration.noDefaultFeatures = configuration'.noDefaultFeatures := by
  have hmanifest : ∀ configuration : Configuration, configuration.words.head? ≠ some "--manifest-path" := by
    intro configuration
    have hflags : ∀ isSet isSet', (flagWords "--all-features" isSet ++
        flagWords "--no-default-features" isSet').head? ≠ some "--manifest-path" := by decide
    rw [configuration.words_eq]
    exact (optionalWords_features _).head?_append_ne (by decide) (hflags _ _)
  rw [(optionalWords_manifest _).cancel (optionalWords_manifest _) (hmanifest _) (hmanifest _), manifestWords_inj,
    Configuration.words_inj h h']

theorem builderWords_inj {package package' : Package} {targetDirectory targetDirectory' : Path}
    {options options' : GuestOptions} (h : CommaFree options.features) (h' : CommaFree options'.features) :
    ["build", "--manifest-path", package.manifest.toString, "--target-dir", targetDirectory.toString] ++
        (featureWords options.features ++ (containerWords options.dockerRoot ++ ["--message-format", "json"])) =
      ["build", "--manifest-path", package'.manifest.toString, "--target-dir", targetDirectory'.toString] ++
        (featureWords options'.features ++ (containerWords options'.dockerRoot ++ ["--message-format", "json"])) ↔
      package.manifest = package'.manifest ∧ targetDirectory = targetDirectory' ∧
        options.features = options'.features ∧ options.dockerRoot = options'.dockerRoot := by
  have hcontainer : ∀ root, (containerWords root ++ ["--message-format", "json"]).head? ≠ some "--features" := by
    rintro (_ | root) <;> exact fun h => absurd (Option.some.inj h) (by decide)
  simp only [List.cons_append, List.nil_append, List.cons.injEq, true_and]
  rw [(optionalWords_features _).cancel (optionalWords_features _) (hcontainer _) (hcontainer _), featureWords_inj h h',
    List.append_left_inj, containerWords_inj, Path.toString_injective.eq_iff, Path.toString_injective.eq_iff]

theorem exists_ok_iff {call call' : List String} :
    (∃ found, (.ok call : Except Error (List String)) = .ok found ∧
      (.ok call' : Except Error (List String)) = .ok found) ↔ call = call' := by
  constructor
  · rintro ⟨found, ⟨⟩, ⟨⟩⟩
    rfl
  · rintro rfl
    exact ⟨call, rfl, rfl⟩

end commands

/-- Equal command lines have equal parts. The values of options are not looked at, so they may look like flags; of the
features it is asked that they hold no commas. -/
theorem commands_equal_iff {command : String} {words : List String} (h : split command = .ok words) :
    (∀ package package' targetDirectory targetDirectory' options options',
      CommaFree options.features → CommaFree options'.features →
      ((∃ call, builderCommand command package targetDirectory options = .ok call ∧
          builderCommand command package' targetDirectory' options' = .ok call) ↔
        package.manifest = package'.manifest ∧ targetDirectory = targetDirectory' ∧
        options.features = options'.features ∧ options.dockerRoot = options'.dockerRoot)) ∧
    ∀ manifest manifest' configuration configuration',
      CommaFree (configuration.getD {}).features → CommaFree (configuration'.getD {}).features →
      ((∃ call, metadataCommand command manifest configuration = .ok call ∧
          metadataCommand command manifest' configuration' = .ok call) ↔
        manifest = manifest' ∧ (configuration.getD {}).features = (configuration'.getD {}).features ∧
        (configuration.getD {}).allFeatures = (configuration'.getD {}).allFeatures ∧
        (configuration.getD {}).noDefaultFeatures = (configuration'.getD {}).noDefaultFeatures) := by
  constructor
  · intro package package' targetDirectory targetDirectory' options options' hfree hfree'
    rw [builderCommand_words h, builderCommand_words h, exists_ok_iff, List.append_right_inj,
      builderWords_inj hfree hfree']
  · intro manifest manifest' configuration configuration' hfree hfree'
    rw [metadataCommand_words h, metadataCommand_words h, exists_ok_iff, List.append_right_inj, List.append_right_inj,
      metadataWords_inj hfree hfree']

/-- A container is not mistaken for features that look like one, nor a flag for a feature of its name. -/
theorem commands_equal_iff_flags :
    CommaFree ["--docker", "--docker-root"] ∧ CommaFree ["--all-features"] ∧
    ¬ (∃ call,
      builderCommand "tool" Small.package Small.result.targetDirectory
        { features := ["--docker"], dockerRoot := some Small.workspace.root } = .ok call ∧
      builderCommand "tool" Small.package Small.result.targetDirectory
        { features := ["--docker", "--docker-root"] } = .ok call) ∧
    ¬ ∃ call,
      metadataCommand "cargo" none (some { features := ["--all-features"] }) = .ok call ∧
      metadataCommand "cargo" none (some { features := ["--all-features"], allFeatures := true }) = .ok call := by
  have hcontainer : CommaFree ["--docker", "--docker-root"] := by decide +kernel
  have hflag : CommaFree ["--all-features"] := by decide +kernel
  have htool : split "tool" = .ok ["tool"] := by decide +kernel
  have hcargo : split "cargo" = .ok ["cargo"] := by decide +kernel
  refine ⟨hcontainer, hflag, ?_, ?_⟩
  · intro hequal
    have hparts := ((commands_equal_iff htool).1 _ _ _ _ _ _ (by decide +kernel) hcontainer).1 hequal
    exact absurd hparts.2.2.2 (by decide)
  · intro hequal
    have hparts := ((commands_equal_iff hcargo).2 none none (some { features := ["--all-features"] })
      (some { features := ["--all-features"], allFeatures := true }) hflag hflag).1 hequal
    exact absurd hparts.2.2.1 (by decide)

end GuestForge
