import GuestForge.Proofs.CommandRuns
import GuestForge.Proofs.PrintedLines
set_option autoImplicit false

/-!
# Lines on a console

A console shows lines one below the other, and breaks none of them if the whole text fits into its columns. Lines of
markup that can all be rendered are shown, and one that cannot ends the call behind those before it.
-/
namespace GuestForge

theorem Text.CellWidth.fits_append_newline {columns : Nat} {front rest : List Char} :
    Fits columns (front ++ '\n' :: rest) ↔ Fits columns front ∧ Fits columns rest := by
  unfold Fits
  rw [segments_eq_splitOn, List.splitOn_append_cons_self, List.forall_mem_append, ← segments_eq_splitOn,
    ← segments_eq_splitOn]

def textOf (lines : List String) : String := String.join (lines.map (· ++ "\n"))

def Console.shown (console : Console) (lines : List String) : String :=
  String.join (lines.map fun line => console.wrap line ++ "\n")

theorem toList_textOf_cons (line : String) (lines : List String) :
    (textOf (line :: lines)).toList = line.toList ++ '\n' :: (textOf lines).toList := by
  rw [textOf, List.map_cons, String.join_cons, String.toList_append, String.toList_append, List.append_assoc]
  rfl

theorem Text.CellWidth.fits_textOf {columns : Nat} {lines : List String} :
    Fits columns (textOf lines).toList ↔ ∀ line ∈ lines, Fits columns line.toList := by
  induction lines with
  | nil => simp [textOf, Fits, segments, cells, cellsFrom]
  | cons line lines ih => rw [toList_textOf_cons, fits_append_newline, ih, List.forall_mem_cons]

theorem Console.shown_eq {console : Console} {lines : List String}
    (fits : Text.CellWidth.Fits console.columns (textOf lines).toList) : console.shown lines = textOf lines := by
  rw [Text.CellWidth.fits_textOf] at fits
  refine congrArg String.join (List.map_congr_left fun line hline => ?_)
  rw [console.wrap_fits line (fits line hline)]

theorem Console.shown_append (console : Console) (lines others : List String) :
    console.shown (lines ++ others) = console.shown lines ++ console.shown others := by
  rw [shown, List.map_append, String.join_append]
  rfl

namespace CommandLine
open CommandM Text.Markup

section print
variable {terminal after : Terminal} {markup : String}

theorem runs_print {text : String} (h : render markup = .ok text) {answer : Except Halt Unit} :
    Runs (print markup) terminal answer after ↔ answer = .ok () ∧
      after = { terminal with output := terminal.output ++ terminal.session.host.console.wrap text ++ "\n" } := by
  unfold print
  rw [h]
  exact Runs.iff rfl

theorem runs_print_error {error : Error} (h : render markup = .error error) {answer : Except Halt Unit} :
    Runs (print markup) terminal answer after ↔ answer = .error (.crash (.markup error)) ∧ after = terminal := by
  unfold print
  rw [h]
  exact runs_halt

end print

def Broken (ending : Ending) : Prop :=
  ∃ tag position output, ending = .crashed (.markup (.unmatched tag position)) output

/-- A call that prints these texts, each while the styles in `opened` are open, and means to end with a code and this
output. Texts without tags let it come to its end, plain ones appear as they stand if the console is wide enough, and a
closing tag in one of them, the others before it being plain, is a fault. -/
structure Prints (ending : Ending) (code : Nat) (console : Console) (output : String) (opened texts : List String) :
    Prop where
  plain : (∀ text ∈ texts, Plain opened text) → Text.CellWidth.Fits console.columns output.toList →
    ending = .exited code output
  untagged : (∀ text ∈ texts, holdsTag text.toList = false) → ∃ shown, ending = .exited code shown
  broken : ∀ done text others, texts = done ++ text :: others → (∀ text ∈ done, Plain opened text) →
    Breaks opened text → Broken ending

namespace Invocation
variable {name : String} {specs : List OptionSpec} {environment : List (String × String)} {session : Session}
variable (invocation : Invocation name specs environment session) (after : Session)

theorem runs_prints {markups texts : List String}
    (h : List.Forall₂ (fun markup text => render markup = .ok text) markups texts) (output : String) :
    Runs (markups.forM print) (invocation.printed after output) (.ok ())
      (invocation.printed after (output ++ after.host.console.shown texts)) := by
  induction h generalizing output with
  | nil => exact runs_pure.2 ⟨rfl, by rw [Console.shown, List.map_nil, String.join_nil, String.append_empty]⟩
  | @cons markup text markups texts hline _ ih =>
    have hrest := ih (output ++ after.host.console.wrap text ++ "\n")
    have houtput : output ++ after.host.console.shown (text :: texts) =
        output ++ after.host.console.wrap text ++ "\n" ++ after.host.console.shown texts := by
      simp only [Console.shown, List.map_cons, String.join_cons, String.append_assoc]
    rw [houtput]
    exact runs_forM_cons.2 (runs_bind.2 (.inl ⟨(), _, (runs_print hline).2 ⟨rfl, rfl⟩, hrest⟩))

theorem prints_of_lines {opened : List String} {ending : Ending} {code : Nat} {final : Except Halt Unit}
    (shown : List String) (lines : List (OutputLine opened)) (ends : ∀ output, endingOf output final = .exited code output)
    (h : ∀ answer terminal, Runs ((lines.map OutputLine.markup).forM print)
        (invocation.printed after (after.host.console.shown shown)) answer terminal →
      ending = endingOf terminal.output (answer.bind fun _ => final)) :
    Prints ending code after.host.console (textOf (shown ++ lines.map OutputLine.shown)) opened
      (lines.filterMap OutputLine.text?) where
  plain hplain fits := by
    have hruns := invocation.runs_prints after (OutputLine.renders_plain hplain) (after.host.console.shown shown)
    rw [h _ _ hruns, ← after.host.console.shown_eq fits, after.host.console.shown_append]
    exact ends _
  untagged huntagged := by
    obtain ⟨texts, htexts⟩ := OutputLine.renders_untagged huntagged
    rw [h _ _ (invocation.runs_prints after htexts _)]
    exact ⟨_, ends _⟩
  broken done text others htexts hdone hbreaks := by
    obtain ⟨before, line, behind, rfl, rfl, hline⟩ := OutputLine.line_of_text htexts
    obtain ⟨tag, position, hrender⟩ := OutputLine.render_breaks hline hbreaks
    have hbefore := invocation.runs_prints after (OutputLine.renders_plain hdone) (after.host.console.shown shown)
    have hfails := runs_forM_error.2 ⟨_, _, behind.map OutputLine.markup, _, rfl, hbefore,
      (runs_print_error hrender).2 ⟨rfl, rfl⟩⟩
    rw [← List.map_cons, ← List.map_append] at hfails
    rw [h _ _ hfails]
    exact ⟨tag, position, _, rfl⟩

end Invocation

end CommandLine

end GuestForge
