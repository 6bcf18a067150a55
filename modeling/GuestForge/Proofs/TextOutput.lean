import GuestForge.Proofs.Consoles
import GuestForge.Proofs.MachineOutput
import GuestForge.Proofs.Surroundings
set_option autoImplicit false

/-!
# Output for readers

What the commands print without `--json`. Messages, paths and settings go to the console as markup: a plain text is
printed as it stands where the console is wide enough, and one that closes a style which is not open ends the command
with a fault.
-/
namespace GuestForge.CommandLine
open CommandM Text.Markup

theorem forM_print_singleton (markup : String) : [markup].forM print = print markup := bind_pure_unit

theorem runs_before_halt {action : CommandM Unit} {terminal after : Terminal} {answer : Except Halt Unit} (halt : Halt)
    (h : Runs action terminal answer after) :
    Runs (action >>= fun _ => (throw halt : CommandM Unit)) terminal (answer.bind fun _ => .error halt) after := by
  cases answer with
  | ok _ => exact runs_bind.2 (.inl ⟨(), after, h, runs_halt.2 ⟨rfl, rfl⟩⟩)
  | error fault => exact runs_bind.2 (.inr ⟨fault, h, rfl⟩)

theorem bind_ok_unit (answer : Except Halt Unit) : (answer.bind fun _ => .ok ()) = answer := by
  cases answer <;> rfl

section bake
variable {environment : List (String × String)} {session after : Session}
variable (invocation : Invocation "bake" bakeSpecs environment session)

def errorText (error : BakeError) : String := textOf ["Error: " ++ error.message]

theorem errorLine_markup (message : String) :
    errorLine.markup message = "[red]Error: " ++ message ++ "[/red]" :=
  errorLine.markup_eq (by decide) (by decide) _

theorem errorLine_shown (message : String) : errorLine.shown message = "Error: " ++ message :=
  errorLine.shown_eq (by decide) _

theorem bake_error_execute {error : BakeError} (json : isGiven invocation.options "json" = false)
    (hbakes : invocation.Bakes (.error (.bake error)) after) {answer : Except Halt Unit} {terminal : Terminal}
    (h : Runs (print (errorLine.markup error.message)) (invocation.printed after "") answer terminal) :
    (execute invocation.arguments environment session).1 =
      endingOf terminal.output (answer.bind fun _ => .error (.exit 1)) := by
  rw [errorLine_markup] at h
  have hshow : Runs (showAnswer false (.error (.bake error))) (invocation.printed after "") _ _ :=
    runs_before_halt (.exit 1) h
  rw [← json] at hshow
  rw [hbakes.execute hshow]

theorem bake_error_unmatched {error : BakeError} (json : isGiven invocation.options "json" = false)
    (hbakes : invocation.Bakes (.error (.bake error)) after) {tag : String} {position : Nat}
    (hrender : render (errorLine.markup error.message) = .error (.unmatched tag position)) :
    (execute invocation.arguments environment session).1 = .crashed (.markup (.unmatched tag position)) "" := by
  rw [bake_error_execute invocation json hbakes ((runs_print_error hrender).2 ⟨rfl, rfl⟩)]
  rfl

theorem bake_error_prints {error : BakeError} (json : isGiven invocation.options "json" = false)
    (hbakes : invocation.Bakes (.error (.bake error)) after) :
    Prints (execute invocation.arguments environment session).1 1 session.host.console (errorText error) ["red"]
      [error.message] := by
  have hprints := invocation.prints_of_lines after [] [.framed errorLine.frame error.message] (fun _ => rfl)
    fun answer terminal h => bake_error_execute invocation json hbakes (forM_print_singleton _ ▸ h)
  rw [hbakes.stays.console] at hprints
  have htext : errorText error = textOf [errorLine.shown error.message] := by rw [errorLine_shown, errorText]
  rw [htext]
  exact hprints

def showGuest (guest : PublishedGuest) : CommandM Unit := do
  print ("  [green]" ++ guest.elfPath.toString ++ "[/green]")
  print ("    " ++ guest.imageId.context.name ++ " ID: " ++ guest.imageId.digest.toHex)

def identifierText (guest : PublishedGuest) : String :=
  "    " ++ guest.imageId.context.name ++ " ID: " ++ guest.imageId.digest.toHex

def countText (result : BakeResult) : String :=
  "Baked " ++ toString result.guests.length ++ " guest(s) from " ++ toString result.packages.length ++ " package(s)"

def resultText (result : BakeResult) : String :=
  textOf ((countText result ++ ":") ::
    result.guests.flatMap fun guest => ["  " ++ guest.elfPath.toString, identifierText guest])

theorem guestLine_markup (path : String) : guestLine.markup path = "  [green]" ++ path ++ "[/green]" :=
  guestLine.markup_eq (by decide) (by decide) _

theorem guestLine_shown (path : String) : guestLine.shown path = "  " ++ path := guestLine.shown_eq (by decide) _

theorem render_identifier (guest : PublishedGuest) : render (identifierText guest) = .ok (identifierText guest) := by
  have hhex : Bland guest.imageId.digest.toHex.toList := by
    rw [Digest.toHex, String.toList_ofList]
    exact bland_encode _
  refine render_label ?_ (.of_bland hhex)
  cases guest.imageId.context with
  | user => exact isLabel_of_colon "    user ID" "" rfl (by decide) (by decide)
  | kernel => exact isLabel_of_colon "    kernel ID" "" rfl (by decide) (by decide)

def countMarkup (result : BakeResult) : String :=
  "[bold]Baked " ++ toString result.guests.length ++ " guest(s) from " ++ toString result.packages.length ++
    " package(s):[/bold]"

theorem render_count (result : BakeResult) : render (countMarkup result) = .ok (countText result ++ ":") := by
  have hfront : "[bold]Baked ".toList = "[bold]".toList ++ "Baked ".toList := by decide
  have hback : " package(s):[/bold]".toList = " package(s)".toList ++ ":[/bold]".toList := by decide
  refine render_heading (countText result) ?_ ?_
  · delta countMarkup countText
    simp only [String.toList_append, List.append_assoc, hfront, hback]
  · delta countText
    simp only [String.toList_append, bland_append]
    exact ⟨⟨⟨⟨by decide, bland_toString _⟩, by decide⟩, bland_toString _⟩, by decide⟩

def guestLines (guest : PublishedGuest) : List (OutputLine ["green"]) :=
  [.framed guestLine.frame guest.elfPath.toString, .fixed _ _ (render_identifier guest)]

def resultLines (result : BakeResult) : List (OutputLine ["green"]) :=
  .fixed _ _ (render_count result) :: result.guests.flatMap guestLines

theorem forM_print_guests (guests : List PublishedGuest) :
    ((guests.flatMap guestLines).map OutputLine.markup).forM print = guests.forM showGuest := by
  induction guests with
  | nil => rfl
  | cons guest guests ih =>
    change (do
      print (guestLine.markup guest.elfPath.toString)
      print (identifierText guest)
      ((guests.flatMap guestLines).map OutputLine.markup).forM print) = (do showGuest guest; guests.forM showGuest)
    rw [ih, guestLine_markup, showGuest, bind_assoc]
    rfl

theorem texts_resultLines (result : BakeResult) :
    (resultLines result).filterMap OutputLine.text? = result.guests.map fun guest => guest.elfPath.toString := by
  change (result.guests.flatMap guestLines).filterMap OutputLine.text? = _
  rw [List.filterMap_flatMap, List.map_eq_flatMap]
  rfl

theorem textOf_resultLines (result : BakeResult) :
    textOf ((resultLines result).map OutputLine.shown) = resultText result := by
  have hguest (guest : PublishedGuest) : (guestLines guest).map OutputLine.shown =
      ["  " ++ guest.elfPath.toString, identifierText guest] := by
    rw [← guestLine_shown]
    rfl
  rw [resultText, resultLines, List.map_cons, List.map_flatMap]
  simp only [hguest]
  rfl

theorem packages_ne_nil {result : BakeResult} (hbakes : invocation.Bakes (.ok result) after) (h : result.guests ≠ []) :
    result.packages ≠ [] := by
  obtain ⟨workspace, resolved, -, hbake⟩ := runs_bind_ok.1 hbakes.2
  obtain ⟨current, started, -, hpackages⟩ := runs_bind_ok.1 hbake
  obtain ⟨batches, built, hbatches, hresult⟩ := runs_bind_ok.1 hpackages
  obtain ⟨hresult, -⟩ := runs_pure.1 hresult
  cases hresult
  intro hnone
  rw [List.map_eq_nil_iff] at hnone
  rw [hnone] at hbatches
  obtain ⟨hbatches, -⟩ := runs_mapM_nil.1 hbatches
  cases hbatches
  exact h rfl

theorem bake_result_execute {result : BakeResult} (json : isGiven invocation.options "json" = false)
    (hbakes : invocation.Bakes (.ok result) after) (hguests : result.guests ≠ []) {answer : Except Halt Unit}
    {terminal : Terminal}
    (h : Runs (((resultLines result).map OutputLine.markup).forM print) (invocation.printed after "") answer terminal) :
    (execute invocation.arguments environment session).1 = endingOf terminal.output (answer.bind fun _ => .ok ()) := by
  have hlines : ((resultLines result).map OutputLine.markup).forM print =
      (do print (countMarkup result); result.guests.forM showGuest) := by
    rw [← forM_print_guests]
    rfl
  rw [hlines] at h
  rw [bind_ok_unit]
  refine congrArg Prod.fst (hbakes.execute ?_)
  rw [json]
  change Runs (if result.packages = [] then _ else _) _ _ _
  rw [if_neg (packages_ne_nil invocation hbakes hguests)]
  exact h

theorem bake_result_prints {result : BakeResult} (json : isGiven invocation.options "json" = false)
    (hbakes : invocation.Bakes (.ok result) after) (hguests : result.guests ≠ []) :
    Prints (execute invocation.arguments environment session).1 0 session.host.console (resultText result) ["green"]
      (result.guests.map fun guest => guest.elfPath.toString) := by
  have hprints := invocation.prints_of_lines after [] (resultLines result) (fun _ => rfl)
    fun answer terminal h => bake_result_execute invocation json hbakes hguests h
  rw [hbakes.stays.console, texts_resultLines, List.nil_append, textOf_resultLines] at hprints
  exact hprints

end bake

section config
variable {environment : List (String × String)} {session : Session}
variable (invocation : Invocation "config" configSpecs environment session)

def configLines (manager builder : String) (level : LogLevel) : List String :=
  ["Effective Configuration:", "", "Tools:", manager, builder, "", "Operational:",
    "  Log level:           " ++ level.name]

def configText (settings : Settings) : String :=
  textOf (configLines ("  Cargo command:       " ++ settings.packageManager)
    ("  Builder command:     " ++ settings.builder) settings.logLevel)

theorem isLabel_packageManager : IsLabel "  Cargo command:       " :=
  isLabel_of_colon "  Cargo command" "      " rfl (by decide) (by decide)

theorem isLabel_builder : IsLabel "  Builder command:     " :=
  isLabel_of_colon "  Builder command" "    " rfl (by decide) (by decide)

theorem render_level (level : LogLevel) :
    render ("  Log level:           " ++ level.name) = .ok ("  Log level:           " ++ level.name) := by
  refine render_label (isLabel_of_colon "  Log level" "          " rfl (by decide) (by decide)) ?_
  cases level <;> exact .of_bland (by decide)

theorem render_blank : render "" = .ok "" := render_inert .nil

theorem render_effective : render "[bold]Effective Configuration:[/bold]" = .ok "Effective Configuration:" :=
  render_heading "Effective Configuration" rfl (by decide)

theorem render_tools : render "[bold]Tools:[/bold]" = .ok "Tools:" :=
  render_heading "Tools" rfl (by decide)

theorem render_operational : render "[bold]Operational:[/bold]" = .ok "Operational:" :=
  render_heading "Operational" rfl (by decide)

def settingsLines (settings : Settings) : List (OutputLine []) :=
  [.fixed _ _ render_effective, .fixed _ _ render_blank, .fixed _ _ render_tools,
    .framed (.ofLabel _ isLabel_packageManager) settings.packageManager,
    .framed (.ofLabel _ isLabel_builder) settings.builder, .fixed _ _ render_blank, .fixed _ _ render_operational,
    .fixed _ _ (render_level settings.logLevel)]

def showSettings (settings : Settings) : CommandM Unit := ((settingsLines settings).map OutputLine.markup).forM print

theorem renders_settings {settings : Settings} {manager builder : String}
    (hmanager : render ("  Cargo command:       " ++ settings.packageManager) = .ok manager)
    (hbuilder : render ("  Builder command:     " ++ settings.builder) = .ok builder) :
    List.Forall₂ (fun markup shown => render markup = .ok shown) ((settingsLines settings).map OutputLine.markup)
      (configLines manager builder settings.logLevel) :=
  .cons render_effective (.cons render_blank (.cons render_tools (.cons hmanager (.cons hbuilder (.cons render_blank
    (.cons render_operational (.cons (render_level settings.logLevel) .nil)))))))

theorem showSettings_eq (settings : Settings) : showSettings settings = (do
    print "[bold]Effective Configuration:[/bold]"
    print ""
    print "[bold]Tools:[/bold]"
    print ("  Cargo command:       " ++ settings.packageManager)
    print ("  Builder command:     " ++ settings.builder)
    print ""
    print "[bold]Operational:[/bold]"
    print ("  Log level:           " ++ settings.logLevel.name)) := by
  rw [← bind_pure_unit (x := print ("  Log level:           " ++ settings.logLevel.name))]
  rfl

theorem config_runs (json : isGiven invocation.options "json" = false) {answer : Except Halt Unit}
    {terminal : Terminal}
    (h : Runs (showSettings invocation.settings) (invocation.printed session "") answer terminal) :
    Runs (call invocation.arguments) { session := session, environment := environment } answer terminal := by
  rw [showSettings_eq] at h
  refine invocation.runs_call rfl (runs_bind.2 (.inl ⟨_, _, invocation.runs_commandOptions _, ?_⟩))
  refine runs_bind.2 (.inl ⟨_, _, invocation.runs_settings, ?_⟩)
  simp only [json]
  exact h

theorem config_prints (json : isGiven invocation.options "json" = false) :
    Prints (execute invocation.arguments environment session).1 0 session.host.console (configText invocation.settings) []
      [invocation.settings.packageManager, invocation.settings.builder] := by
  have hends : ∀ answer terminal, Runs (showSettings invocation.settings) (invocation.printed session "") answer terminal →
      (execute invocation.arguments environment session).1 =
        endingOf terminal.output (answer.bind fun _ => .ok ()) := by
    intro answer terminal h
    rw [bind_ok_unit, execute_eq (config_runs invocation json h)]
  exact invocation.prints_of_lines session [] (settingsLines invocation.settings) (fun _ => rfl) hends

end config

section compat
variable {environment : List (String × String)} {session : Session}
variable (invocation : Invocation "compat" compatSpecs environment session)

def Invocation.Exports (directory : Path) (host : Host) : Prop :=
  ∃ text, valueOf? invocation.options "output" = some text ∧ '\x00' ∉ text.toList ∧ directory = Path.ofString text ∧
    Runs (exportBundle directory) session.host (.ok ()) host

def sizeText : String := "v1compat.elf: " ++ toString CompatBundle.elf.length ++ " bytes"

def kernelText : String := "kernel ID:    " ++ String.ofList (Text.Hex.encode CompatBundle.kernelId)

def bundleText (directory : Path) : String :=
  textOf [sizeText, kernelText, "Wrote v1compat bundle to " ++ directory.toString]

theorem bundleLine_markup (path : String) :
    bundleLine.markup path = "[green]Wrote v1compat bundle to " ++ path ++ "[/green]" :=
  bundleLine.markup_eq (by decide) (by decide) _

theorem bundleLine_shown (path : String) : bundleLine.shown path = "Wrote v1compat bundle to " ++ path :=
  bundleLine.shown_eq (by decide) _

theorem render_size : render sizeText = .ok sizeText := by
  have hlabel : IsLabel "v1compat.elf: " :=
    isLabel_of_colon "v1compat.elf" "" rfl (by decide) (by decide)
  have hsize : Bland (toString CompatBundle.elf.length ++ " bytes").toList := by
    rw [String.toList_append, bland_append]
    exact ⟨bland_toString _, by decide⟩
  have htext : sizeText = "v1compat.elf: " ++ (toString CompatBundle.elf.length ++ " bytes") := String.append_assoc ..
  rw [htext]
  exact render_label hlabel (.of_bland hsize)

theorem render_kernel : render kernelText = .ok kernelText := by
  have hlabel : IsLabel "kernel ID:    " :=
    isLabel_of_colon "kernel ID" "   " rfl (by decide) (by decide)
  refine render_label hlabel (.of_bland ?_)
  rw [String.toList_ofList]
  exact bland_encode _

def showExport : Option Path → CommandM Unit
  | none => pure ()
  | some directory => do
    match ← onHost (exportBundle directory) with
    | .ok () => print ("[green]Wrote v1compat bundle to " ++ directory.toString ++ "[/green]")
    | .error (.system error) =>
      print ("[red]Error: Failed to write " ++ directory.toString ++ ": " ++ error.message ++ "[/red]")
      throw (.exit 1)
    | .error fault => crash fault

theorem compat_eq (arguments : List String) : compat arguments = (do
    let given ← commandOptions compatSpecs arguments
    let output ← pathArgument (valueOf? given "output")
    print sizeText
    print kernelText
    showExport output) := rfl

theorem compat_execute {directory : Path} {host : Host} (hexports : invocation.Exports directory host)
    {answer : Except Halt Unit} {terminal : Terminal}
    (h : Runs (print (bundleLine.markup directory.toString))
      (invocation.printed { session with host := host } (host.console.shown [sizeText, kernelText])) answer terminal) :
    execute invocation.arguments environment session = (endingOf terminal.output answer, terminal.session) := by
  obtain ⟨text, htext, hclean, rfl, hexport⟩ := hexports
  have hconsole : host.console = session.host.console := (stays_of_retreed (retreed_exportBundle _) _ _ _ hexport).console
  have hpath : Runs (pathArgument (valueOf? invocation.options "output")) invocation.terminal
      (.ok (some (Path.ofString text))) invocation.terminal := by
    rw [htext]
    exact runs_pathArgument fun _ hmem => Option.some.inj hmem ▸ hclean
  have hprints := invocation.runs_prints session (.cons render_size (.cons render_kernel .nil)) ""
  rw [String.empty_append, ← hconsole] at hprints
  obtain ⟨_, _, hsize, hrest⟩ := runs_bind_ok.1 (runs_forM_cons.1 hprints)
  obtain ⟨_, _, hkernel, hend⟩ := runs_bind_ok.1 (runs_forM_cons.1 hrest)
  obtain ⟨-, rfl⟩ := runs_pure.1 hend
  have hwrites : Runs (CommandM.onHost (exportBundle (Path.ofString text)))
      (invocation.printed session (host.console.shown [sizeText, kernelText])) (.ok (.ok ()))
      (invocation.printed { session with host := host } (host.console.shown [sizeText, kernelText])) :=
    runs_attempt (runs_onHost.2 ⟨hexport, rfl⟩)
  have hexport : Runs (showExport (some (Path.ofString text)))
      (invocation.printed session (host.console.shown [sizeText, kernelText])) answer terminal := by
    rw [bundleLine_markup] at h
    exact runs_bind.2 (.inl ⟨_, _, hwrites, h⟩)
  refine invocation.execute_eq rfl ?_
  rw [compat_eq]
  refine runs_bind.2 (.inl ⟨_, _, invocation.runs_commandOptions _, ?_⟩)
  refine runs_bind.2 (.inl ⟨_, _, hpath, ?_⟩)
  exact runs_bind.2 (.inl ⟨_, _, hsize, runs_bind.2 (.inl ⟨_, _, hkernel, hexport⟩)⟩)

theorem compat_prints {directory : Path} {host : Host} (hexports : invocation.Exports directory host) :
    Prints (execute invocation.arguments environment session).1 0 session.host.console (bundleText directory) ["green"]
      [directory.toString] := by
  have hends : ∀ answer terminal, Runs ([bundleLine.markup directory.toString].forM print)
      (invocation.printed { session with host := host } (host.console.shown [sizeText, kernelText])) answer terminal →
      (execute invocation.arguments environment session).1 =
        endingOf terminal.output (answer.bind fun _ => .ok ()) := by
    intro answer terminal h
    rw [forM_print_singleton] at h
    rw [bind_ok_unit, compat_execute invocation hexports h]
  have hprints := invocation.prints_of_lines { session with host := host } [sizeText, kernelText]
    [.framed bundleLine.frame directory.toString] (fun _ => rfl) hends
  have htext : bundleText directory = textOf [sizeText, kernelText, bundleLine.shown directory.toString] := by
    rw [bundleLine_shown, bundleText]
  obtain ⟨text, -, -, -, hexport⟩ := hexports
  rw [htext, ← (stays_of_retreed (retreed_exportBundle _) _ _ _ hexport).console]
  exact hprints

end compat

end GuestForge.CommandLine

namespace GuestForge
open CommandLine

/-- What the commands print without `--json`: the message of an error, the binaries of a result, the settings, and the
directory of the bundle. No text is escaped, so tags in it are read as such, and lines that are wider than the console
are broken. -/
theorem text_output_outcome {environment : List (String × String)} {session : Session} :
    (∀ invocation : Invocation "bake" bakeSpecs environment session, isGiven invocation.options "json" = false →
      (∀ error after, invocation.Bakes (.error (.bake error)) after →
        Prints (execute invocation.arguments environment session).1 1 session.host.console (errorText error) ["red"]
          [error.message]) ∧
      ∀ result after, invocation.Bakes (.ok result) after → result.guests ≠ [] →
        Prints (execute invocation.arguments environment session).1 0 session.host.console (resultText result) ["green"]
          (result.guests.map fun guest => guest.elfPath.toString)) ∧
    (∀ invocation : Invocation "config" configSpecs environment session, isGiven invocation.options "json" = false →
      Prints (execute invocation.arguments environment session).1 0 session.host.console (configText invocation.settings)
        [] [invocation.settings.packageManager, invocation.settings.builder]) ∧
    ∀ (invocation : Invocation "compat" compatSpecs environment session) (directory : Path) (host : Host),
      invocation.Exports directory host →
        Prints (execute invocation.arguments environment session).1 0 session.host.console (bundleText directory)
          ["green"] [directory.toString] := by
  refine ⟨?bake, ?config, ?compat⟩
  case bake =>
    intro invocation json
    exact ⟨fun _ _ hbakes => bake_error_prints invocation json hbakes,
      fun _ _ hbakes hguests => bake_result_prints invocation json hbakes hguests⟩
  case config =>
    intro invocation json
    exact config_prints invocation json
  case compat =>
    intro invocation directory host hexports
    exact compat_prints invocation hexports

namespace Minimal

def textBake (outcomes : List Outcome) : Invocation "bake" bakeSpecs [] (session outcomes) :=
  invoked "bake" bakeSpecs outcomes [] [] rfl rfl rfl

def textConfig : Invocation "config" configSpecs [] (session []) := invoked "config" configSpecs [] [] [] rfl rfl rfl

def compatExport : Invocation "compat" compatSpecs [] (session []) :=
  invoked "compat" compatSpecs [] ["--output", "out"] [⟨"output", "out"⟩] rfl rfl rfl

theorem textBake_fails : (textBake []).Bakes (.error (.bake missing)) (called []) := ⟨nofun, rfl⟩

theorem textBake_bakes : ∃ after, (textBake [.ended 0 printed none [], built]).Bakes (.ok baked) after := by
  obtain ⟨after, hbakes⟩ := bakes
  exact ⟨after, nofun, hbakes⟩

def exported : Host := (exportBundle (Path.ofString "out")).run.run (session []).host |>.2

theorem compatExport_exports : compatExport.Exports (Path.ofString "out") exported :=
  ⟨"out", rfl, by decide, rfl, runs_of_toOption (by decide +kernel)⟩

def diagnostics : List Outcome := [.ended 101 "" (some "error: no [/dependencies] table") []]

def tagged : BakeError := .metadata (.exited 101 "error: no [/dependencies] table")

theorem textBake_tagged : (textBake diagnostics).Bakes (.error (.bake tagged)) (called []) := ⟨nofun, rfl⟩

theorem breaks_tagged : Breaks ["red"] tagged.message := by
  refine ⟨"cargo metadata failed with exit code 101: error: no ".toList, "dependencies".toList, " table".toList,
    "dependencies", ?_⟩
  constructor
  case body => simp
  all_goals decide +kernel

theorem plain_texts : Plain ["red"] missing.message ∧
    (∀ text ∈ baked.guests.map fun guest => guest.elfPath.toString, Plain ["green"] text) ∧
    (∀ text ∈ ["cargo", "r0-guest-builder"], Plain [] text) ∧ Plain ["green"] (Path.ofString "out").toString := by
  decide +kernel

theorem fits_texts : ∀ text ∈ [errorText missing, resultText baked, configText {}, bundleText (Path.ofString "out")],
    Text.CellWidth.Fits 100000 text.toList := by
  simp only [List.forall_mem_cons, errorText, resultText, configText, bundleText, Text.CellWidth.fits_textOf]
  decide +kernel

end Minimal

theorem text_output_outcome_minimal :
    (execute ["bake"] [] (Minimal.session [])).1 = .exited 1 (errorText Minimal.missing) ∧
    (execute ["bake"] [] (Minimal.session [.ended 0 Minimal.printed none [], Minimal.built])).1 =
      .exited 0 (resultText Minimal.baked) ∧
    (execute ["config"] [] (Minimal.session [])).1 = .exited 0 (configText {}) ∧
    (execute ["compat", "--output", "out"] [] (Minimal.session [])).1 = .exited 0 (bundleText (Path.ofString "out")) ∧
    Broken (execute ["bake"] [] (Minimal.session Minimal.diagnostics)).1 := by
  obtain ⟨after, hbakes⟩ := Minimal.textBake_bakes
  have herror := ((text_output_outcome.1 (Minimal.textBake []) rfl).1 _ _ Minimal.textBake_fails).plain
  have hresult := ((text_output_outcome.1 (Minimal.textBake _) rfl).2 _ _ hbakes nofun).plain
  have hconfig := (text_output_outcome.2.1 Minimal.textConfig rfl).plain
  have hcompat := (text_output_outcome.2.2 Minimal.compatExport _ _ Minimal.compatExport_exports).plain
  have htagged := (text_output_outcome.1 (Minimal.textBake Minimal.diagnostics) rfl).1 _ _ Minimal.textBake_tagged
  obtain ⟨hred, hgreen, hsettings, hout⟩ := Minimal.plain_texts
  have hfits := Minimal.fits_texts
  simp only [List.forall_mem_cons] at hfits
  obtain ⟨herrorFits, hresultFits, hconfigFits, hcompatFits, -⟩ := hfits
  refine ⟨herror (List.forall_mem_singleton.2 hred) herrorFits, hresult hgreen hresultFits,
    hconfig hsettings hconfigFits, hcompat (List.forall_mem_singleton.2 hout) hcompatFits, ?_⟩
  exact htagged.broken [] _ [] rfl (List.forall_mem_nil _) Minimal.breaks_tagged

/-- What the package manager wrote among its diagnostics ends the call with a fault: the message is not printed at
all. -/
theorem bake_crashes_on_brackets :
    (Minimal.textBake Minimal.diagnostics).Bakes (.error (.bake Minimal.tagged)) (Minimal.called []) ∧
    (execute ["bake"] [] (Minimal.session Minimal.diagnostics)).1 =
      .crashed (.markup (.unmatched "[/dependencies]" 64)) "" := by
  have hrender : Text.Markup.render (errorLine.markup Minimal.tagged.message) =
      .error (.unmatched "[/dependencies]" 64) := by decide +kernel
  exact ⟨Minimal.textBake_tagged, bake_error_unmatched _ rfl Minimal.textBake_tagged hrender⟩

end GuestForge
