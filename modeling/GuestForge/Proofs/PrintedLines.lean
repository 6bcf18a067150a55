import GuestForge.Proofs.MarkupRendering
import Mathlib.Data.List.Forall2
set_option autoImplicit false

/-!
# Lines of output

The commands print lines of a label and a text, some in a style. A plain text appears as it stands behind its label, one
without tags appears somehow, and one in which a closing tag closes nothing makes the line a fault.
-/
namespace GuestForge.CommandLine
open Text.Markup

/-- A text that is printed as it stands while these styles are open; a closing tag follows if there are any. -/
structure Plain (opened : List String) (text : String) : Prop where
  inert : Inert text.toList
  unescaped : opened ≠ [] → text.toList.getLast? ≠ some '\\'

instance (opened : List String) (text : String) : Decidable (Plain opened text) :=
  decidable_of_iff (Inert text.toList ∧ (opened ≠ [] → text.toList.getLast? ≠ some '\\'))
    ⟨fun ⟨inert, unescaped⟩ => ⟨inert, unescaped⟩, fun h => ⟨h.inert, h.unescaped⟩⟩

def Breaks (opened : List String) (text : String) : Prop :=
  ∃ before closing rest style, ClosesNothing opened text.toList before closing rest style

theorem unescaped_append {front text : List Char} (hfront : front.getLast? ≠ some '\\')
    (h : text.getLast? ≠ some '\\') : (front ++ text).getLast? ≠ some '\\' := by
  rw [List.getLast?_append]
  cases hlast : text.getLast? with
  | none => exact hfront
  | some c => rwa [hlast] at h

structure IsLabel (label : String) : Prop where
  inert : ∀ {text : List Char}, Inert text → Inert (label.toList ++ text)
  untagged : ∀ {text : List Char}, holdsTag text = false → holdsTag (label.toList ++ text) = false
  unescaped : label.toList.getLast? ≠ some '\\'

theorem isLabel_of_bland {label : String} (h : Bland label.toList) : IsLabel label where
  inert := Inert.append h
  untagged htext := (holdsTag_append h).trans htext
  unescaped hlast := absurd (h _ (List.mem_of_getLast? hlast)) (by decide)

theorem isLabel_of_colon {label : String} (front blanks : String)
    (hlabel : label.toList = front.toList ++ ':' :: ' ' :: blanks.toList)
    (hfront : Bland front.toList) (hblanks : Bland blanks.toList) : IsLabel label where
  inert := by
    intro text htext
    rw [hlabel, List.append_assoc]
    exact Inert.colon hfront (Inert.append hblanks htext)
  untagged := by
    intro text htext
    rw [hlabel, List.append_assoc]
    exact (holdsTag_append hfront).trans ((holdsTag_append hblanks).trans htext)
  unescaped := by
    rw [hlabel]
    have hcolon : [':', ' '].getLast? ≠ some '\\' := by decide
    have hblanks := (isLabel_of_bland hblanks).unescaped
    exact unescaped_append (isLabel_of_bland hfront).unescaped (unescaped_append hcolon hblanks)

theorem Breaks.behind {label text : String} {opened : List String} (h : Breaks opened text) (hlabel : IsLabel label)
    (more : List Char) :
    ∃ before closing rest style, ClosesNothing opened (label.toList ++ text.toList ++ more) before closing rest style := by
  obtain ⟨before, closing, rest, style, hcloses⟩ := h
  refine ⟨label.toList ++ before, closing, rest ++ more, style, { hcloses with
    text_eq := by rw [hcloses.text_eq]; simp
    inert := hlabel.inert hcloses.inert
    unescaped := unescaped_append hlabel.unescaped hcloses.unescaped }⟩

theorem render_label {label text : String} (hlabel : IsLabel label) (h : Inert text.toList) :
    render (label ++ text) = .ok (label ++ text) :=
  render_inert (by rw [String.toList_append]; exact hlabel.inert h)

/-- A text without tags is shown somehow, whatever else is in it. -/
theorem render_label_untagged {label text : String} (hlabel : IsLabel label) (h : holdsTag text.toList = false) :
    ∃ shown, render (label ++ text) = .ok shown :=
  render_untagged (by rw [String.toList_append]; exact hlabel.untagged h)

theorem Breaks.render {label text : String} (h : Breaks [] text) (hlabel : IsLabel label) :
    ∃ tag position, render (label ++ text) = .error (.unmatched tag position) := by
  obtain ⟨before, closing, rest, style, hcloses⟩ := h.behind hlabel []
  rw [List.append_nil, ← String.toList_append] at hcloses
  exact ⟨_, _, hcloses.render⟩

structure StyledLine where
  front : String
  style : String
  label : String
  isFront : IsLabel front
  isStyle : SimpleStyle style
  isLabel : IsLabel label

namespace StyledLine
variable (line : StyledLine) {text : String}

def markup (text : String) : String :=
  line.front ++ "[" ++ line.style ++ "]" ++ line.label ++ text ++ ("[/" ++ line.style ++ "]")

def shown (text : String) : String := line.front ++ line.label ++ text

theorem markup_eq {opening closing : String} (hopening : line.front ++ "[" ++ line.style ++ "]" ++ line.label = opening)
    (hclosing : "[/" ++ line.style ++ "]" = closing) (text : String) : line.markup text = opening ++ text ++ closing := by
  rw [markup, hopening, hclosing]

theorem shown_eq {start : String} (hstart : line.front ++ line.label = start) (text : String) :
    line.shown text = start ++ text := by
  rw [shown, hstart]

theorem toList_markup (text : String) : (line.markup text).toList =
    line.front.toList ++ '[' :: (line.style.toList ++ ']' :: (line.label.toList ++ text.toList ++
      '[' :: ('/' :: line.style.toList ++ ']' :: []))) := by
  simp [markup, String.toList_append]

theorem inert_front : Inert line.front.toList := by
  have hinert := line.isFront.inert .nil
  rwa [List.append_nil] at hinert

theorem render_plain (h : Plain [line.style] text) : render (line.markup text) = .ok (line.shown text) := by
  rw [render_styled line.isStyle (line.toList_markup text) line.inert_front line.isFront.unescaped
    (line.isLabel.inert h.inert) (unescaped_append line.isLabel.unescaped (h.unescaped nofun))]
  rw [← String.toList_append, ← String.toList_append, String.ofList_toList, shown, String.append_assoc]

theorem render_untagged (h : holdsTag text.toList = false) : ∃ shown, render (line.markup text) = .ok shown :=
  render_styled_untagged line.isStyle (line.toList_markup text) line.inert_front line.isFront.unescaped
    (line.isLabel.untagged h)

theorem render_breaks (h : Breaks [line.style] text) :
    ∃ tag position, render (line.markup text) = .error (.unmatched tag position) := by
  obtain ⟨before, closing, rest, style, hcloses⟩ :=
    h.behind line.isLabel ('[' :: ('/' :: line.style.toList ++ ']' :: []))
  exact ⟨_, _, hcloses.render_styled line.isStyle (line.toList_markup text) line.inert_front line.isFront.unescaped⟩

end StyledLine

/-- What stands around a text in a line of output. A plain text appears as it stands, one without tags somehow, and one
in which a closing tag closes nothing makes the line a fault. -/
structure Frame (opened : List String) where
  markup : String → String
  shown : String → String
  render_plain : ∀ {text : String}, Plain opened text → render (markup text) = .ok (shown text)
  render_untagged : ∀ {text : String}, holdsTag text.toList = false → ∃ shown, render (markup text) = .ok shown
  render_breaks : ∀ {text : String}, Breaks opened text →
    ∃ tag position, render (markup text) = .error (.unmatched tag position)

def Frame.ofLabel (label : String) (h : IsLabel label) : Frame [] where
  markup text := label ++ text
  shown text := label ++ text
  render_plain hplain := render_label h hplain.inert
  render_untagged := render_label_untagged h
  render_breaks hbreaks := hbreaks.render h

def StyledLine.frame (line : StyledLine) : Frame [line.style] where
  markup := line.markup
  shown := line.shown
  render_plain := line.render_plain
  render_untagged := line.render_untagged
  render_breaks := line.render_breaks

inductive OutputLine (opened : List String) where
  | fixed (markup shown : String) (renders : render markup = .ok shown)
  | framed (frame : Frame opened) (text : String)

namespace OutputLine
variable {opened : List String} {lines : List (OutputLine opened)}

def markup : OutputLine opened → String
  | fixed markup _ _ => markup
  | framed frame text => frame.markup text

def shown : OutputLine opened → String
  | fixed _ shown _ => shown
  | framed frame text => frame.shown text

def text? : OutputLine opened → Option String
  | fixed _ _ _ => none
  | framed _ text => some text

theorem render_plain {line : OutputLine opened} (h : ∀ text ∈ line.text?, Plain opened text) :
    render line.markup = .ok line.shown := by
  cases line with
  | fixed markup shown renders => exact renders
  | framed frame text => exact frame.render_plain (h text rfl)

theorem render_untagged {line : OutputLine opened} (h : ∀ text ∈ line.text?, holdsTag text.toList = false) :
    ∃ shown, render line.markup = .ok shown := by
  cases line with
  | fixed markup shown renders => exact ⟨shown, renders⟩
  | framed frame text => exact frame.render_untagged (h text rfl)

theorem render_breaks {line : OutputLine opened} {text : String} (htext : line.text? = some text)
    (h : Breaks opened text) : ∃ tag position, render line.markup = .error (.unmatched tag position) := by
  cases line with
  | fixed markup shown renders => cases htext
  | framed frame text =>
    cases htext
    exact frame.render_breaks h

theorem renders_plain (h : ∀ text ∈ lines.filterMap text?, Plain opened text) :
    List.Forall₂ (fun markup shown => render markup = .ok shown) (lines.map markup) (lines.map OutputLine.shown) := by
  rw [List.forall_mem_filterMap] at h
  rw [List.forall₂_map_left_iff, List.forall₂_map_right_iff]
  exact List.forall₂_same.2 fun line hline => render_plain (h line hline)

theorem renders_untagged (h : ∀ text ∈ lines.filterMap text?, holdsTag text.toList = false) :
    ∃ texts, List.Forall₂ (fun markup shown => render markup = .ok shown) (lines.map markup) texts := by
  rw [List.forall_mem_filterMap] at h
  induction lines with
  | nil => exact ⟨[], .nil⟩
  | cons line lines ih =>
    obtain ⟨hline, hlines⟩ := List.forall_mem_cons.1 h
    obtain ⟨shown, hshown⟩ := render_untagged hline
    obtain ⟨texts, htexts⟩ := ih hlines
    exact ⟨shown :: texts, .cons hshown htexts⟩

theorem line_of_text {done others : List String} {text : String} (h : lines.filterMap text? = done ++ text :: others) :
    ∃ before line behind, lines = before ++ line :: behind ∧ before.filterMap text? = done ∧ line.text? = some text := by
  obtain ⟨before, rest, rfl, hdone, hrest⟩ := List.filterMap_eq_append_iff.1 h
  obtain ⟨fixed, line, behind, rfl, hfixed, hline, -⟩ := List.filterMap_eq_cons_iff.1 hrest
  refine ⟨before ++ fixed, line, behind, (List.append_assoc ..).symm, ?_, hline⟩
  rw [List.filterMap_append, hdone, List.filterMap_eq_nil_iff.2 hfixed, List.append_nil]

end OutputLine

def errorLine : StyledLine where
  front := ""
  style := "red"
  label := "Error: "
  isFront := isLabel_of_bland (by decide)
  isStyle := simpleStyle_red
  isLabel := isLabel_of_colon "Error" "" rfl (by decide) (by decide)

def guestLine : StyledLine where
  front := "  "
  style := "green"
  label := ""
  isFront := isLabel_of_bland (by decide)
  isStyle := simpleStyle_green
  isLabel := isLabel_of_bland (by decide)

def bundleLine : StyledLine where
  front := ""
  style := "green"
  label := "Wrote v1compat bundle to "
  isFront := isLabel_of_bland (by decide)
  isStyle := simpleStyle_green
  isLabel := isLabel_of_bland (by decide)

theorem render_heading {markup : String} (heading : String)
    (hmarkup : markup.toList = "[bold]".toList ++ heading.toList ++ ":[/bold]".toList)
    (h : Bland heading.toList) : render markup = .ok (heading ++ ":") := by
  have hend : (heading.toList ++ [':']).getLast? ≠ some '\\' := by
    rw [List.getLast?_append]
    exact nofun
  have hstyled : markup.toList = [] ++ '[' :: ("bold".toList ++ ']' :: ((heading.toList ++ [':']) ++
      '[' :: ('/' :: "bold".toList ++ ']' :: []))) := by
    rw [hmarkup, List.append_assoc, List.append_assoc]
    rfl
  rw [render_styled simpleStyle_bold hstyled .nil (by decide) (.colon_last h) hend, List.nil_append,
    String.ofList_append, String.ofList_toList]

end GuestForge.CommandLine
