import GuestForge.CommandLine.Commands
import GuestForge.Proofs.Course
import GuestForge.Proofs.HostActions
set_option autoImplicit false

/-!
# Calls that reach a command

Before a command does anything, its call reads the main options, the settings and the options of the command. An
`Invocation` is a call for which all that goes well; running it comes to running the command itself, in the session
that the call started in.
-/
namespace GuestForge.CommandLine
open CommandM

section steps
variable {α : Type} {terminal after : Terminal}

theorem runs_echo {text : String} {answer : Except Halt Unit} :
    Runs (echo text) terminal answer after ↔
      answer = .ok () ∧ after = { terminal with output := terminal.output ++ text ++ "\n" } :=
  Runs.iff rfl

theorem runs_get {answer : Except Halt Terminal} :
    Runs (get : CommandM Terminal) terminal answer after ↔ answer = .ok terminal ∧ after = terminal :=
  Runs.iff rfl

theorem runs_halt {halt : Halt} {answer : Except Halt α} :
    Runs (throw halt : CommandM α) terminal answer after ↔ answer = .error halt ∧ after = terminal := runs_throw

theorem runs_attempt {act : BakeM α} {answer : Except Fault α} {session : Session}
    (h : Runs act terminal.session answer session) :
    Runs (attempt act) terminal (.ok answer) { terminal with session := session } := by
  unfold Runs at h ⊢
  change (fun run : Except Fault α × Session => (Except.ok run.1, { terminal with session := run.2 }))
    (act.run.run terminal.session) = _
  rw [h]

theorem runs_onHost_quiet {act : HostM α} {answer : Except Fault α}
    (h : Runs act terminal.session.host answer terminal.session.host) :
    Runs (CommandM.onHost act) terminal (.ok answer) terminal :=
  runs_attempt (GuestForge.runs_onHost.2 ⟨h, rfl⟩)

theorem runs_pathArgument {value : Option String} (h : ∀ text ∈ value, '\x00' ∉ text.toList) :
    Runs (pathArgument value) terminal (.ok (value.map Path.ofString)) terminal := by
  cases value with
  | none => exact runs_pure.2 ⟨rfl, rfl⟩
  | some text =>
    have hclean := h text rfl
    simp only [pathArgument, if_neg hclean]
    exact runs_pure.2 ⟨rfl, rfl⟩

end steps

def IsDotenv (host : Host) (dotenv : Option String) : Prop :=
  ∃ content, Runs (HostM.fileContent? (Path.ofString ".env")) host (.ok content) host ∧
    (content = none ∧ dotenv = none ∨
      ∃ bytes text, content = some bytes ∧ Text.Utf8.decode bytes = .ok text ∧ dotenv = some text)

theorem runs_dotenv {terminal : Terminal} {dotenv : Option String} (h : IsDotenv terminal.session.host dotenv) :
    Runs CommandM.dotenv terminal (.ok dotenv) terminal := by
  obtain ⟨content, hcontent, hdotenv⟩ := h
  refine runs_bind_ok.2 ⟨_, _, runs_onHost_quiet hcontent, ?_⟩
  rcases hdotenv with ⟨rfl, rfl⟩ | ⟨bytes, text, rfl, hdecode, rfl⟩
  · exact runs_pure.2 ⟨rfl, rfl⟩
  · simp only [hdecode]
    exact runs_pure.2 ⟨rfl, rfl⟩

theorem runs_settings {terminal : Terminal} {dotenv : Option String} {settings : Settings}
    (hdotenv : IsDotenv terminal.session.host dotenv)
    (hload : Settings.load terminal.environment dotenv = .valid settings) :
    Runs CommandM.settings terminal (.ok settings) terminal := by
  refine runs_bind_ok.2 ⟨_, _, runs_dotenv hdotenv, runs_bind_ok.2 ⟨_, _, runs_get.2 ⟨rfl, rfl⟩, ?_⟩⟩
  simp only [hload]
  exact runs_pure.2 ⟨rfl, rfl⟩

def levelText (given : List Given) (settings : Settings) : String :=
  match valueOf? given "log-level" with
  | some text => if text = "" then settings.logLevel.name else text
  | none => settings.logLevel.name

theorem runs_mainOptions {arguments others : List String} {given : List Given} {terminal : Terminal}
    (reads : readArguments mainSpecs false arguments = some (given, others))
    (plain : ∀ option ∈ given, option.key = "log-level") :
    Runs (mainOptions arguments) terminal (.ok (given, others)) terminal := by
  have hfind : given.find? (fun given => given.key = "version" ∨ given.key = "help") = none := by
    rw [List.find?_eq_none]
    intro option hoption
    rw [plain option hoption]
    decide
  have hcompletion : isGiven given "completion" = false := by
    unfold isGiven
    rw [List.any_eq_false]
    intro option hoption
    rw [plain option hoption]
    decide
  unfold mainOptions
  simp only [reads, hfind, hcompletion]
  exact runs_pure.2 ⟨rfl, rfl⟩

/-- A call of the command `name` with arguments and settings that are accepted. -/
structure Invocation (name : String) (specs : List OptionSpec) (environment : List (String × String))
    (session : Session) where
  arguments : List String
  /-- The options before the command. -/
  given : List Given
  rest : List String
  /-- The options of the command. -/
  options : List Given
  dotenv : Option String
  settings : Settings
  reads : readArguments mainSpecs false arguments = some (given, name :: rest)
  plain : ∀ option ∈ given, option.key = "log-level"
  readsOptions : readArguments specs true rest = some (options, [])
  noHelp : isGiven options "help" = false
  isDotenv : IsDotenv session.host dotenv
  isLoaded : Settings.load environment dotenv = .valid settings
  isLevel : Text.Case.upper (levelText given settings) ∈ levelNames

def endingOf (output : String) : Except Halt Unit → Ending
  | .ok () => .exited 0 output
  | .error .usage => .usage
  | .error (.exit code) => .exited code output
  | .error (.crash fault) => .crashed fault output

theorem execute_eq {arguments : List String} {environment : List (String × String)} {session : Session}
    {answer : Except Halt Unit} {after : Terminal}
    (h : Runs (call arguments) { session := session, environment := environment } answer after) :
    execute arguments environment session = (endingOf after.output answer, after.session) := by
  unfold Runs at h
  unfold execute
  rw [h]
  rcases answer with (_ | _ | _) | _ <;> rfl

namespace Invocation
variable {name : String} {specs : List OptionSpec} {environment : List (String × String)} {session : Session}
variable (invocation : Invocation name specs environment session)

def terminal : Terminal where
  session := session
  environment := environment
  level := some (Text.Case.upper (levelText invocation.given invocation.settings))

def printed (after : Session) (output : String) : Terminal :=
  { invocation.terminal with session := after, output := output }

theorem runs_echo (after : Session) (output text : String) :
    Runs (echo text) (invocation.printed after output) (.ok ()) (invocation.printed after (output ++ text ++ "\n")) :=
  CommandLine.runs_echo.2 ⟨rfl, rfl⟩

theorem runs_mainOptions (terminal : Terminal) :
    Runs (mainOptions invocation.arguments) terminal (.ok (invocation.given, name :: invocation.rest)) terminal :=
  CommandLine.runs_mainOptions invocation.reads invocation.plain

theorem runs_setLogLevel :
    Runs (setLogLevel (valueOf? invocation.given "log-level")) { session := session, environment := environment }
      (.ok ()) invocation.terminal := by
  refine runs_bind_ok.2 ⟨_, _, runs_settings invocation.isDotenv invocation.isLoaded, ?_⟩
  change Runs (if Text.Case.upper (levelText invocation.given invocation.settings) ∈ levelNames then _ else _) _ _ _
  rw [if_pos invocation.isLevel]
  exact (Runs.iff rfl).2 ⟨rfl, rfl⟩

theorem runs_commandOptions (terminal : Terminal) :
    Runs (commandOptions specs invocation.rest) terminal (.ok invocation.options) terminal := by
  unfold commandOptions
  simp only [invocation.readsOptions, invocation.noHelp]
  exact runs_pure.2 ⟨rfl, rfl⟩

theorem runs_settings : Runs CommandM.settings invocation.terminal (.ok invocation.settings) invocation.terminal :=
  CommandLine.runs_settings invocation.isDotenv invocation.isLoaded

theorem runs_call {command : List String → CommandM Unit} (hcommand : commands.lookup name = some command)
    {answer : Except Halt Unit} {after : Terminal}
    (h : Runs (command invocation.rest) invocation.terminal answer after) :
    Runs (call invocation.arguments) { session := session, environment := environment } answer after := by
  refine runs_bind.2 (.inl ⟨_, _, invocation.runs_mainOptions _, ?_⟩)
  simp only [hcommand]
  exact runs_bind.2 (.inl ⟨_, _, invocation.runs_setLogLevel, h⟩)

theorem execute_eq {command : List String → CommandM Unit} (hcommand : commands.lookup name = some command)
    {answer : Except Halt Unit} {after : Terminal}
    (h : Runs (command invocation.rest) invocation.terminal answer after) :
    execute invocation.arguments environment session = (endingOf after.output answer, after.session) :=
  CommandLine.execute_eq (invocation.runs_call hcommand h)

end Invocation

def manifestOf (options : List Given) : Option Path := (valueOf? options "manifest-path").map Path.ofString

def configurationOf (options : List Given) : Configuration :=
  ⟨splitFeatures (valuesOf options "features"), isGiven options "all-features", isGiven options "no-default-features",
    isGiven options "docker"⟩

def selectionOf (options : List Given) : Selection :=
  ⟨valuesOf options "package", isGiven options "workspace", valuesOf options "exclude"⟩

/-- What a bake comes to, once its options and the settings are read. -/
def Invocation.Bakes {environment : List (String × String)} {session : Session}
    (invocation : Invocation "bake" bakeSpecs environment session) (answer : Except Fault BakeResult)
    (after : Session) : Prop :=
  (∀ text ∈ valueOf? invocation.options "manifest-path", '\x00' ∉ text.toList) ∧
    Runs (resolveAndBake invocation.settings (manifestOf invocation.options) (configurationOf invocation.options)
      (selectionOf invocation.options)) session answer after

def showAnswer (json : Bool) : Except Fault BakeResult → CommandM Unit
  | .ok result => if json then echo (Json.write .indented .unicode result.toJson) else showResult result
  | .error (.bake error) => do
    if json then echo (Json.write .indented .ascii (.object [("error", error.toJson)]))
    else print ("[red]Error: " ++ error.message ++ "[/red]")
    throw (.exit 1)
  | .error fault => crash fault

theorem Invocation.Bakes.execute {environment : List (String × String)} {session after : Session}
    {invocation : Invocation "bake" bakeSpecs environment session} {answer : Except Fault BakeResult}
    (h : invocation.Bakes answer after) {ending : Except Halt Unit} {terminal : Terminal}
    (hshow : Runs (showAnswer (isGiven invocation.options "json") answer) (invocation.printed after "") ending
      terminal) :
    execute invocation.arguments environment session = (endingOf terminal.output ending, terminal.session) := by
  obtain ⟨hmanifest, hbakes⟩ := h
  refine invocation.execute_eq rfl (runs_bind.2 (.inl ⟨_, _, invocation.runs_commandOptions _, ?_⟩))
  refine runs_bind.2 (.inl ⟨_, _, runs_pathArgument hmanifest, ?_⟩)
  refine runs_bind.2 (.inl ⟨_, _, invocation.runs_settings, ?_⟩)
  have hattempt : Runs (attempt _) invocation.terminal _ _ := runs_attempt hbakes
  refine runs_bind.2 (.inl ⟨_, _, hattempt, ?_⟩)
  cases answer with
  | ok result => exact hshow
  | error fault => cases fault <;> exact hshow

end GuestForge.CommandLine
