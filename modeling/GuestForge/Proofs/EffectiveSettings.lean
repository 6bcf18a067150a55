import GuestForge.Proofs.StartedPrograms
set_option autoImplicit false

/-!
# What the settings show, and what is in effect

The level of logging comes from the command line, or else from the settings, and those come from the environment before
the `.env` file before the defaults. Showing the settings reads them once more, without the command line: the two
commands shown are those that a bake starts, but the level shown is the one logging was set up with only if the command
line gives none or one of the same severity.
-/
namespace GuestForge

theorem LogLevel.ofName?_eq_some {text : String} {level : LogLevel} :
    LogLevel.ofName? text = some level ↔ text = level.name := by
  constructor
  · intro h
    have hname := List.find?_some (show LogLevel.all.find? (·.name == text) = some level from h)
    exact (eq_of_beq hname).symm
  · rintro rfl
    cases level <;> decide

namespace Settings
open Schema (Checked)
variable {environment : List (String × String)} {dotenv : Option String} {settings : Settings}

/-- The value of a field: that in the environment, or else that in the `.env` file. -/
def configured? (environment : List (String × String)) (dotenv : Option String) (field : String) : Option String :=
  (valueOf? (environment.map fun (name, value) => (name, some value)) ("guest_bake_" ++ field)).or
    (valueOf? ((dotenv.map (Dotenv.parse environment)).getD []) ("guest_bake_" ++ field))

structure InEffect (environment : List (String × String)) (dotenv : Option String) (settings : Settings) : Prop where
  packageManager : settings.packageManager = (configured? environment dotenv "cargo_command").getD "cargo"
  builder : settings.builder = (configured? environment dotenv "builder_command").getD "r0-guest-builder"
  logLevel : settings.logLevel.name = (configured? environment dotenv "log_level").getD "INFO"

def checkLevel (configured : Option String) : Checked LogLevel :=
  match configured with
  | none => .valid LogLevel.info
  | some text => match LogLevel.ofName? text with
    | some level => .valid level
    | none => (Schema.complain .notLevel).under "log_level"

theorem checkLevel_eq_valid {configured : Option String} {level : LogLevel} :
    checkLevel configured = .valid level ↔ level.name = configured.getD "INFO" := by
  cases configured with
  | none =>
    have hinfo : LogLevel.info = level ↔ level.name = "INFO" := by cases level <;> decide
    simpa [checkLevel] using hinfo
  | some text =>
    rw [Option.getD_some, eq_comm, @eq_comm _ level.name, ← LogLevel.ofName?_eq_some, checkLevel]
    cases LogLevel.ofName? text <;> simp [Schema.complain, Checked.under, eq_comm]

theorem load_eq_valid_iff : load environment dotenv = .valid settings ↔ settings.InEffect environment dotenv := by
  have hload : load environment dotenv = (checkLevel (configured? environment dotenv "log_level")).map fun level =>
      ⟨(configured? environment dotenv "cargo_command").getD "cargo",
        (configured? environment dotenv "builder_command").getD "r0-guest-builder", level⟩ := rfl
  rw [hload]
  refine Checked.map_eq_valid.trans ?_
  simp only [checkLevel_eq_valid]
  constructor
  · rintro ⟨level, hlevel, rfl⟩
    exact ⟨rfl, rfl, hlevel⟩
  · rintro ⟨hmanager, hbuilder, hlevel⟩
    exact ⟨settings.logLevel, hlevel, by rw [← hmanager, ← hbuilder]⟩

end Settings

namespace CommandLine
open CommandM Text.Markup
open HostM (Quiet quiet_entry)

section exits
variable {α β : Type} {terminal after : Terminal}

def Crashes (act : CommandM α) : Prop :=
  ∀ terminal halt after, Runs act terminal (.error halt) after → ∃ fault, halt = .crash fault

theorem crashes_pure (a : α) : Crashes (pure a) := by
  intro terminal halt after h
  cases (runs_pure.1 h).1

theorem crashes_crash (fault : Fault) : Crashes (crash fault : CommandM α) := by
  intro terminal halt after h
  cases (runs_halt.1 h).1
  exact ⟨fault, rfl⟩

theorem crashes_bind {act : CommandM α} {next : α → CommandM β} (first : Crashes act)
    (rest : ∀ a, Crashes (next a)) : Crashes (act >>= next) := by
  intro terminal halt after h
  rcases runs_bind_error.1 h with hact | ⟨a, middle, -, hnext⟩
  · exact first _ _ _ hact
  · exact rest a _ _ _ hnext

theorem crashes_ite {condition : Prop} [Decidable condition] {act other : CommandM α} (first : Crashes act)
    (second : Crashes other) : Crashes (if condition then act else other) := by
  split
  · exact first
  · exact second

theorem crashes_attempt (act : BakeM α) : Crashes (attempt act) := by
  intro terminal halt after h
  obtain ⟨answer, session, hruns⟩ := Runs.exists act terminal.session
  cases ((runs_attempt hruns).unique h).1

theorem crashes_print (markup : String) : Crashes (print markup) := by
  intro terminal halt after h
  cases hrender : render markup with
  | ok text => cases ((runs_print hrender).1 h).1
  | error error =>
    cases ((runs_print_error hrender).1 h).1
    exact ⟨_, rfl⟩

theorem crashes_dotenv : Crashes CommandM.dotenv := by
  refine crashes_bind (crashes_attempt _) fun content => ?_
  split
  · exact crashes_pure _
  · split
    · exact crashes_pure _
    · exact crashes_crash _
  · exact crashes_crash _

theorem crashes_settings : Crashes CommandM.settings := by
  refine crashes_bind crashes_dotenv fun dotenv => crashes_bind ?_ fun terminal => ?_
  · intro terminal halt after h
    cases (runs_get.1 h).1
  · split
    · exact crashes_pure _
    · exact crashes_crash _

theorem crashes_setLogLevel (flag : Option String) : Crashes (setLogLevel flag) := by
  refine crashes_bind crashes_settings fun settings => crashes_ite ?_ (crashes_crash _)
  intro terminal halt after h
  cases (Runs.iff rfl).1 h |>.1

theorem crashes_showSettings (settings : Settings) : Crashes (showSettings settings) := by
  intro terminal halt after h
  obtain ⟨done, markup, rest, middle, -, -, hfails⟩ := runs_forM_error.1 h
  exact crashes_print _ _ _ _ hfails

end exits

section reading
variable {terminal after : Terminal}

theorem quiet_fileContent {path : Path} : Quiet (HostM.fileContent? path) := by
  refine Quiet.bind quiet_entry fun entry => ?_
  split
  · exact Quiet.pure _
  · exact Quiet.pure _

theorem onHost_ok {α : Type} {act : HostM α} (quiet : Quiet act) {answer : Except Fault α}
    (h : Runs (CommandM.onHost act) terminal (.ok answer) after) :
    after = terminal ∧ Runs act terminal.session.host answer terminal.session.host := by
  obtain ⟨result, host, hact⟩ := Runs.exists act terminal.session.host
  obtain rfl : host = terminal.session.host := quiet _ _ _ hact
  obtain ⟨hanswer, rfl⟩ := h.unique (runs_onHost_quiet hact)
  cases hanswer
  exact ⟨rfl, hact⟩

theorem dotenv_ok {dotenv : Option String} (h : Runs CommandM.dotenv terminal (.ok dotenv) after) :
    after = terminal ∧ IsDotenv terminal.session.host dotenv := by
  obtain ⟨content, middle, hcontent, hread⟩ := runs_bind_ok.1 h
  obtain ⟨rfl, hfile⟩ := onHost_ok quiet_fileContent hcontent
  split at hread
  · obtain ⟨hdotenv, rfl⟩ := runs_pure.1 hread
    exact ⟨rfl, none, hfile, .inl ⟨rfl, Except.ok.inj hdotenv⟩⟩
  · rename_i bytes
    split at hread
    · rename_i text hdecode
      obtain ⟨hdotenv, rfl⟩ := runs_pure.1 hread
      exact ⟨rfl, some bytes, hfile, .inr ⟨bytes, text, rfl, hdecode, Except.ok.inj hdotenv⟩⟩
    · cases (runs_halt.1 hread).1
  · cases (runs_halt.1 hread).1

theorem settings_ok {settings : Settings} (h : Runs CommandM.settings terminal (.ok settings) after) :
    after = terminal ∧ ∃ dotenv, IsDotenv terminal.session.host dotenv ∧
      Settings.load terminal.environment dotenv = .valid settings := by
  obtain ⟨dotenv, middle, hread, hrest⟩ := runs_bind_ok.1 h
  obtain ⟨rfl, hdotenv⟩ := dotenv_ok hread
  obtain ⟨state, last, hget, hload⟩ := runs_bind_ok.1 hrest
  obtain ⟨hstate, rfl⟩ := runs_get.1 hget
  cases hstate
  split at hload
  · rename_i found hvalid
    obtain ⟨hsettings, rfl⟩ := runs_pure.1 hload
    cases hsettings
    exact ⟨rfl, dotenv, hdotenv, hvalid⟩
  · cases (runs_halt.1 hload).1

theorem IsDotenv.unique {host : Host} {dotenv other : Option String} (h : IsDotenv host dotenv)
    (h' : IsDotenv host other) : dotenv = other := by
  obtain ⟨content, hcontent, hdotenv⟩ := h
  obtain ⟨content', hcontent', hother⟩ := h'
  cases (hcontent.unique hcontent').1
  rcases hdotenv with ⟨rfl, rfl⟩ | ⟨bytes, text, rfl, hdecode, rfl⟩
  · rcases hother with ⟨-, rfl⟩ | ⟨_, _, hbytes, -⟩
    · rfl
    · cases hbytes
  · rcases hother with ⟨hnone, -⟩ | ⟨bytes', text', hbytes, hdecode', rfl⟩
    · cases hnone
    · cases hbytes
      rw [hdecode] at hdecode'
      rw [Except.ok.inj hdecode']

/-- Logging is set up only with settings that load, and with a level that it knows. -/
theorem setLogLevel_ok {given : List Given}
    (h : Runs (setLogLevel (valueOf? given "log-level")) terminal (.ok ()) after) :
    ∃ dotenv settings, IsDotenv terminal.session.host dotenv ∧
      Settings.load terminal.environment dotenv = .valid settings ∧
      Text.Case.upper (levelText given settings) ∈ levelNames := by
  obtain ⟨settings, middle, hread, hrest⟩ := runs_bind_ok.1 h
  obtain ⟨rfl, dotenv, hdotenv, hload⟩ := settings_ok hread
  refine ⟨dotenv, settings, hdotenv, hload, ?_⟩
  by_contra hunknown
  change Runs (if Text.Case.upper (levelText given settings) ∈ levelNames then _ else _) _ _ _ at hrest
  rw [if_neg hunknown] at hrest
  cases (runs_halt.1 hrest).1

end reading

def AsksConfig (arguments : List String) (flag : Option String) (json : Bool) : Prop :=
  ∃ given rest options, readArguments mainSpecs false arguments = some (given, "config" :: rest) ∧
    (∀ option ∈ given, option.key = "log-level") ∧ readArguments configSpecs true rest = some (options, []) ∧
    isGiven options "help" = false ∧ valueOf? given "log-level" = flag ∧ isGiven options "json" = json

theorem plain_level (level : String) : ∀ option ∈ [(⟨"log-level", level⟩ : Given)], option.key = "log-level" := by
  intro option hoption
  rw [List.mem_singleton.1 hoption]

theorem reads_level (level : String) (rest : List String) :
    readArguments mainSpecs false ("--log-level" :: level :: "config" :: rest) =
      some ([⟨"log-level", level⟩], "config" :: rest) := by
  cases rest <;> rfl

theorem reads_json : readArguments configSpecs true ["--json"] = some ([⟨"json", ""⟩], []) := rfl

theorem noHelp_json : isGiven [⟨"json", ""⟩] "help" = false := rfl

theorem asksConfig_plain (flag : Option String) (json : Bool) :
    AsksConfig ((flag.elim [] fun level => ["--log-level", level]) ++ "config" :: if json then ["--json"] else [])
      flag json := by
  cases flag with
  | none =>
    cases json with
    | false => exact ⟨[], [], [], rfl, List.forall_mem_nil _, rfl, rfl, rfl, rfl⟩
    | true => exact ⟨[], ["--json"], _, rfl, List.forall_mem_nil _, reads_json, noHelp_json, rfl, rfl⟩
  | some level =>
    cases json with
    | false => exact ⟨_, [], [], reads_level level [], plain_level level, rfl, rfl, rfl, rfl⟩
    | true => exact ⟨_, ["--json"], _, reads_level level ["--json"], plain_level level, reads_json, noHelp_json, rfl, rfl⟩

section config
variable {environment : List (String × String)} {session : Session} {arguments : List String} {flag : Option String}
  {json : Bool} {output : String}

theorem exits_ok {answer : Except Halt Unit} {terminal : Terminal}
    (h : Runs (call arguments) { session := session, environment := environment } answer terminal)
    (crashes : ∀ halt, answer = .error halt → ∃ fault, halt = .crash fault)
    (exits : (execute arguments environment session).1 = .exited 0 output) : answer = .ok () := by
  rw [execute_eq h] at exits
  cases answer with
  | error halt =>
    obtain ⟨fault, rfl⟩ := crashes halt rfl
    cases exits
  | ok _ => rfl

theorem output_of_exits {terminal : Terminal}
    (h : Runs (call arguments) { session := session, environment := environment } (.ok ()) terminal)
    (exits : (execute arguments environment session).1 = .exited 0 output) : terminal.output = output := by
  rw [execute_eq h] at exits
  exact (Ending.exited.inj exits).2

theorem AsksConfig.invocation (asks : AsksConfig arguments flag json)
    (exits : (execute arguments environment session).1 = .exited 0 output) :
    ∃ invocation : Invocation "config" configSpecs environment session, invocation.arguments = arguments ∧
      valueOf? invocation.given "log-level" = flag ∧ isGiven invocation.options "json" = json := by
  obtain ⟨given, rest, options, reads, plain, readsOptions, noHelp, hflag, hjson⟩ := asks
  have hmain : Runs (mainOptions arguments) { session := session, environment := environment }
      (.ok (given, "config" :: rest)) { session := session, environment := environment } :=
    runs_mainOptions reads plain
  obtain ⟨answer, terminal, hsets⟩ :=
    Runs.exists (setLogLevel (valueOf? given "log-level")) { session := session, environment := environment }
  -- Logging that cannot be set up crashes the call, which does not exit then.
  cases answer with
  | error halt =>
    have hcall : Runs (call arguments) { session := session, environment := environment } (.error halt) terminal :=
      runs_bind.2 (.inl ⟨_, _, hmain, runs_bind.2 (.inr ⟨halt, hsets, rfl⟩)⟩)
    cases exits_ok hcall (fun _ h => by cases h; exact crashes_setLogLevel _ _ _ _ hsets) exits
  | ok _ =>
    obtain ⟨dotenv, settings, hdotenv, hload, hlevel⟩ := setLogLevel_ok hsets
    exact ⟨⟨arguments, given, rest, options, dotenv, settings, reads, plain, readsOptions, noHelp, hdotenv, hload, hlevel⟩,
      rfl, hflag, hjson⟩

structure Displays (json : Bool) (console : Console) (settings : Settings) (output : String) : Prop where
  document : json = true → ∃ document, output = document ++ "\n" ∧
    Json.parse document = .ok (.object [("cargo_command", .string settings.packageManager),
      ("builder_command", .string settings.builder), ("log_level", .string settings.logLevel.name)])
  lines : json = false → ∃ manager builder,
    render ("  Cargo command:       " ++ settings.packageManager) = .ok manager ∧
    render ("  Builder command:     " ++ settings.builder) = .ok builder ∧
    output = console.shown (configLines manager builder settings.logLevel)
  plain : json = false → Plain [] settings.packageManager → Plain [] settings.builder →
    Text.CellWidth.Fits console.columns (configText settings).toList → output = configText settings

def rootLevel (arguments : List String) (environment : List (String × String)) (session : Session) : Option String :=
  ((call arguments).run.run { session := session, environment := environment }).2.level

theorem rootLevel_eq {answer : Except Halt Unit} {terminal : Terminal}
    (h : Runs (call arguments) { session := session, environment := environment } answer terminal) :
    rootLevel arguments environment session = terminal.level := by
  unfold Runs at h
  unfold rootLevel
  rw [h]

theorem parse_settings (settings : Settings) :
    Json.parse (Json.write .indented .unicode settings.toJson) = .ok settings.toJson := by
  have hfits : settings.toJson.Fits 200 := by
    refine Json.Value.fits_object fun member hmember => ?_
    simp only [List.mem_cons, List.not_mem_nil, or_false] at hmember
    rcases hmember with rfl | rfl | rfl <;> exact Json.Value.fits_string 199 _
  exact Json.parse_write .indented .unicode hfits

theorem print_ok {markup : String} {terminal after : Terminal} (h : Runs (print markup) terminal (.ok ()) after) :
    ∃ text, render markup = .ok text := by
  cases hrender : render markup with
  | ok text => exact ⟨text, rfl⟩
  | error error => cases ((runs_print_error hrender).1 h).1

section invocation
variable (invocation : Invocation "config" configSpecs environment session)

theorem config_document (json : isGiven invocation.options "json" = true) :
    Runs (call invocation.arguments) { session := session, environment := environment } (.ok ())
      (invocation.printed session (Json.write .indented .unicode invocation.settings.toJson ++ "\n")) := by
  refine invocation.runs_call rfl (runs_bind.2 (.inl ⟨_, _, invocation.runs_commandOptions _, ?_⟩))
  refine runs_bind.2 (.inl ⟨_, _, invocation.runs_settings, ?_⟩)
  have hecho := invocation.runs_echo session "" (Json.write .indented .unicode invocation.settings.toJson)
  rw [String.empty_append] at hecho
  simp only [json]
  exact hecho

theorem config_lines (json : isGiven invocation.options "json" = false)
    (exits : (execute invocation.arguments environment session).1 = .exited 0 output) :
    ∃ manager builder,
      render ("  Cargo command:       " ++ invocation.settings.packageManager) = .ok manager ∧
      render ("  Builder command:     " ++ invocation.settings.builder) = .ok builder := by
  obtain ⟨answer, terminal, hshows⟩ := Runs.exists (showSettings invocation.settings) (invocation.printed session "")
  obtain rfl := exits_ok (config_runs invocation json hshows)
    (fun _ h => by cases h; exact crashes_showSettings _ _ _ _ hshows) exits
  obtain ⟨_, _, -, hshows⟩ := runs_bind_ok.1 hshows
  obtain ⟨_, _, -, hshows⟩ := runs_bind_ok.1 hshows
  obtain ⟨_, _, -, hshows⟩ := runs_bind_ok.1 hshows
  obtain ⟨_, _, hmanager, hshows⟩ := runs_bind_ok.1 hshows
  obtain ⟨_, _, hbuilder, -⟩ := runs_bind_ok.1 hshows
  obtain ⟨manager, hmanager⟩ := print_ok hmanager
  obtain ⟨builder, hbuilder⟩ := print_ok hbuilder
  exact ⟨manager, builder, hmanager, hbuilder⟩

theorem config_displays (exits : (execute invocation.arguments environment session).1 = .exited 0 output) :
    Displays (isGiven invocation.options "json") session.host.console invocation.settings output ∧
      rootLevel invocation.arguments environment session =
        some (Text.Case.upper (levelText invocation.given invocation.settings)) := by
  cases json : isGiven invocation.options "json" with
  | true =>
    have hcall := config_document invocation json
    have houtput := output_of_exits hcall exits
    refine ⟨⟨fun _ => ⟨_, houtput.symm, parse_settings _⟩, nofun, nofun⟩, rootLevel_eq hcall⟩
  | false =>
    obtain ⟨manager, builder, hmanager, hbuilder⟩ := config_lines invocation json exits
    have hshows := invocation.runs_prints session (renders_settings hmanager hbuilder) ""
    rw [String.empty_append] at hshows
    have hcall := config_runs invocation json hshows
    have houtput := output_of_exits hcall exits
    refine ⟨⟨nofun, fun _ => ⟨manager, builder, hmanager, hbuilder, houtput.symm⟩, fun _ plain plain' fits => ?_⟩,
      rootLevel_eq hcall⟩
    rw [render_label isLabel_packageManager plain.inert] at hmanager
    rw [render_label isLabel_builder plain'.inert] at hbuilder
    cases hmanager
    cases hbuilder
    rw [← houtput]
    exact session.host.console.shown_eq fits

end invocation

/-- A bake in the same environment and session has the same settings. -/
theorem Invocation.same_settings {name other : String} {specs otherSpecs : List OptionSpec}
    (invocation : Invocation name specs environment session)
    (invocation' : Invocation other otherSpecs environment session) : invocation'.settings = invocation.settings := by
  have hloaded := invocation'.isLoaded
  rw [invocation'.isDotenv.unique invocation.isDotenv, invocation.isLoaded] at hloaded
  exact (Schema.Checked.valid.inj hloaded).symm

end config

def severities : List (String × Nat) :=
  [("CRITICAL", 50), ("FATAL", 50), ("ERROR", 40), ("WARN", 30), ("WARNING", 30), ("INFO", 20), ("DEBUG", 10),
    ("NOTSET", 0)]

def severity? (level : String) : Option Nat := severities.lookup level

theorem upper_name (level : LogLevel) : Text.Case.upper level.name = level.name := by
  cases level <;> decide +kernel

def chosenLevel (flag : Option String) (settings : Settings) : String :=
  (flag.filter (· ≠ "")).getD settings.logLevel.name

theorem chosenLevel_eq (given : List Given) (settings : Settings) :
    chosenLevel (valueOf? given "log-level") settings = levelText given settings := by
  unfold chosenLevel levelText
  cases valueOf? given "log-level" with
  | none => rfl
  | some text => by_cases hempty : text = "" <;> simp [Option.filter, hempty]

theorem severity_chosen_iff (flag : Option String) (settings : Settings) :
    severity? (Text.Case.upper (chosenLevel flag settings)) = severity? settings.logLevel.name ↔
      ∀ text ∈ flag, text ≠ "" → severity? (Text.Case.upper text) = severity? settings.logLevel.name := by
  cases flag with
  | none => simp [chosenLevel, upper_name]
  | some text => by_cases hempty : text = "" <;> simp [chosenLevel, Option.filter, hempty, upper_name]

/-- A call that asks for the settings and exits shows what is configured in the environment, the `.env` file and by
default. The commands are those that a bake in the same place starts. The root logger has the level of the command line
if there is one, so the level shown is the one in effect exactly if that level has the same severity. -/
theorem config_shows_settings {arguments : List String} {flag : Option String} {json : Bool}
    {environment : List (String × String)} {session : Session} {output : String}
    (asks : AsksConfig arguments flag json)
    (exits : (execute arguments environment session).1 = .exited 0 output) :
    ∃ dotenv settings, IsDotenv session.host dotenv ∧ Settings.InEffect environment dotenv settings ∧
      Displays json session.host.console settings output ∧
      (∃ root, rootLevel arguments environment session = some root ∧
        root = Text.Case.upper (chosenLevel flag settings) ∧
        (severity? root = severity? settings.logLevel.name ↔
          ∀ text ∈ flag, text ≠ "" → severity? (Text.Case.upper text) = severity? settings.logLevel.name)) ∧
      ∀ invocation : Invocation "bake" bakeSpecs environment session,
        (∀ text ∈ valueOf? invocation.options "manifest-path", '\x00' ∉ text.toList) →
        Starts invocation settings.packageManager settings.builder := by
  obtain ⟨invocation, rfl, rfl, rfl⟩ := asks.invocation exits
  obtain ⟨hdisplays, hroot⟩ := config_displays invocation exits
  refine ⟨invocation.dotenv, invocation.settings, invocation.isDotenv, Settings.load_eq_valid_iff.1 invocation.isLoaded,
    hdisplays, ⟨_, hroot, ?_, ?_⟩, ?_⟩
  · rw [chosenLevel_eq]
  · rw [← chosenLevel_eq]
    exact severity_chosen_iff _ _
  · intro bake clean
    have hstarts := bake.starts clean
    rwa [invocation.same_settings bake] at hstarts

namespace Leveled

def arguments (level : String) : List String := ["--log-level", level, "config", "--json"]

theorem asks (level : String) : AsksConfig (arguments level) (some level) true := asksConfig_plain (some level) true

theorem isLevel_of_known (level : String) {settings : Settings}
    (known : Text.Case.upper (chosenLevel (some level) settings) ∈ levelNames) :
    Text.Case.upper (levelText [⟨"log-level", level⟩] settings) ∈ levelNames := by
  rwa [← chosenLevel_eq]

def call (level : String) (environment : List (String × String)) (settings : Settings)
    (loaded : Settings.load environment none = .valid settings)
    (known : Text.Case.upper (chosenLevel (some level) settings) ∈ levelNames) :
    Invocation "config" configSpecs environment (Minimal.session []) where
  arguments := arguments level
  given := [⟨"log-level", level⟩]
  rest := ["--json"]
  options := [⟨"json", ""⟩]
  dotenv := none
  settings := settings
  reads := reads_level level ["--json"]
  plain := plain_level level
  readsOptions := reads_json
  noHelp := noHelp_json
  isDotenv := Minimal.isDotenv []
  isLoaded := loaded
  isLevel := isLevel_of_known level known

def warned : List (String × String) := [("guest_bake_log_level", "WARNING")]

def warnedSettings : Settings := { logLevel := .warning }

theorem loaded_warned : Settings.load warned none = .valid warnedSettings := rfl

theorem known_warn : Text.Case.upper (chosenLevel (some "warn") warnedSettings) ∈ levelNames := by decide +kernel

theorem known_debug : Text.Case.upper (chosenLevel (some "DEBUG") {}) ∈ levelNames := by decide +kernel

end Leveled

/-- Another name of the level that the environment sets. -/
theorem config_shows_settings_renamed : ∃ output,
    (execute (Leveled.arguments "warn") Leveled.warned (Minimal.session [])).1 = .exited 0 output ∧
    Displays true .wide Leveled.warnedSettings output ∧
    rootLevel (Leveled.arguments "warn") Leveled.warned (Minimal.session []) = some "WARN" ∧
    severity? "WARN" = severity? Leveled.warnedSettings.logLevel.name := by
  have hcall := config_document
    (Leveled.call "warn" Leveled.warned Leveled.warnedSettings Leveled.loaded_warned Leveled.known_warn) rfl
  have exits := congrArg Prod.fst (execute_eq hcall)
  obtain ⟨dotenv, settings, hdotenv, heffect, hdisplays, ⟨root, hroot, rfl, hseverity⟩, -⟩ :=
    config_shows_settings (Leveled.asks "warn") exits
  obtain rfl := hdotenv.unique (Minimal.isDotenv [])
  have hload := Settings.load_eq_valid_iff.2 heffect
  rw [Leveled.loaded_warned] at hload
  cases hload
  have hwarn : Text.Case.upper (chosenLevel (some "warn") Leveled.warnedSettings) = "WARN" := by decide +kernel
  rw [hwarn] at hroot hseverity
  refine ⟨_, exits, hdisplays, hroot, hseverity.2 fun text htext _ => ?_⟩
  rw [← Option.mem_some.1 htext]
  decide +kernel

/-- The level of the command line is in effect, and that of the settings is shown. -/
theorem level_flag_not_shown :
    AsksConfig ["--log-level", "DEBUG", "config", "--json"] (some "DEBUG") true ∧
    (∃ document, (execute ["--log-level", "DEBUG", "config", "--json"] [] (Minimal.session [])).1 =
        .exited 0 (document ++ "\n") ∧
      Json.parse document = .ok (.object [("cargo_command", .string "cargo"),
        ("builder_command", .string "r0-guest-builder"), ("log_level", .string "INFO")])) ∧
    rootLevel ["--log-level", "DEBUG", "config", "--json"] [] (Minimal.session []) = some "DEBUG" ∧
    severity? "DEBUG" ≠ severity? "INFO" := by
  have hcall := config_document (Leveled.call "DEBUG" [] {} rfl Leveled.known_debug) rfl
  have hdebug : Text.Case.upper "DEBUG" = "DEBUG" := by decide +kernel
  refine ⟨Leveled.asks "DEBUG", ⟨_, congrArg Prod.fst (execute_eq hcall), parse_settings {}⟩, ?_, by decide⟩
  exact (rootLevel_eq hcall).trans (congrArg some hdebug)

end CommandLine

end GuestForge
