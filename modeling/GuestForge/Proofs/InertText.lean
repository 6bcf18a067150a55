import GuestForge.Proofs.PathText
import GuestForge.Text.Markup
set_option autoImplicit false

/-!
# Texts that markup leaves alone

A console reads what is printed as markup. A text is inert if there is nothing in it that the console would take for
markup, replace or drop; such a text is shown as it stands.
-/
namespace GuestForge.Text

theorem CellWidth.expandTabs_eq {text : List Char} (h : '\t' ∉ text) : expandTabs text = text := by
  have hlines : (segments '\n' text).map (fun line => expandParts 0 (segments '\t' line)) = segments '\n' text := by
    conv_rhs => rw [← List.map_id (segments '\n' text)]
    refine List.map_congr_left fun line hline => ?_
    rw [segments_of_notMem fun htab => h (mem_of_mem_segments hline htab)]
    rfl
  rw [expandTabs, hlines, segments_eq_splitOn]
  exact List.intercalate_splitOn '\n'

namespace Emoji

theorem replaceCodes_append {front : List Char} (h : ':' ∉ front) (text : List Char) :
    replaceCodes (front ++ text) = front ++ replaceCodes text := by
  obtain ⟨first, others, htext, happend⟩ := segments_append h text
  simp only [replaceCodes, htext, happend, List.append_assoc]

theorem replaceCodes_colon {front : List Char} (h : ':' ∉ front) (text : List Char) :
    replaceCodes (front ++ ':' :: ' ' :: text) = front ++ ':' :: ' ' :: replaceCodes text := by
  rw [replaceCodes_append h]
  have hspace : ':' ∉ [' '] := by decide
  obtain ⟨first, others, htext, hblank⟩ := segments_append hspace text
  have hcolon : segments ':' (':' :: ' ' :: text) = [] :: (' ' :: first) :: others := by
    rw [segments, if_pos rfl]
    exact congrArg _ hblank
  cases others with
  | nil => simp only [replaceCodes, htext, hcolon, showSegments, List.nil_append, List.append_nil]
  | cons next others =>
    have hany : (' ' :: first).any Blank.isBlank = true := rfl
    simp only [replaceCodes, htext, hcolon, showSegments, hany, if_true, List.nil_append, List.cons_append]

theorem replaceCodes_last {front : List Char} (h : ':' ∉ front) : replaceCodes (front ++ [':']) = front ++ [':'] := by
  rw [replaceCodes_append h]
  rfl

end Emoji

namespace Markup

def holdsTag : List Char → Bool
  | [] => false
  | c :: rest => (c == '[' && (tagBody? rest).isSome) || holdsTag rest

structure Inert (text : List Char) : Prop where
  untagged : holdsTag text = false
  unescaped : dropEscapes text = text
  uncoded : Emoji.replaceCodes text = text
  visible : ∀ c ∈ text, isHidden c = false ∧ c ≠ '\t'

instance (text : List Char) : Decidable (Inert text) :=
  decidable_of_iff (holdsTag text = false ∧ dropEscapes text = text ∧ Emoji.replaceCodes text = text ∧
      (text.all fun c => !isHidden c && c != '\t') = true)
    ⟨fun ⟨untagged, unescaped, uncoded, visible⟩ => ⟨untagged, unescaped, uncoded, by simpa using visible⟩,
      fun h => ⟨h.untagged, h.unescaped, h.uncoded, by simpa using h.visible⟩⟩

theorem Inert.nil : Inert [] := ⟨rfl, rfl, rfl, nofun⟩

def isBland (c : Char) : Bool := c != '[' && c != '\\' && c != ':' && c != '\t' && !isHidden c

def Bland (text : List Char) : Prop := ∀ c ∈ text, isBland c = true

instance (text : List Char) : Decidable (Bland text) := decidable_of_iff (text.all isBland = true) List.all_eq_true

theorem bland_append {front text : List Char} : Bland (front ++ text) ↔ Bland front ∧ Bland text := List.forall_mem_append

section bland
variable {front text : List Char} (h : Bland front)
include h

theorem bland_notMem {c : Char} (hc : isBland c = false) : c ∉ front := fun hmem => by
  rw [h c hmem] at hc
  cases hc

theorem holdsTag_append : holdsTag (front ++ text) = holdsTag text := by
  induction front with
  | nil => rfl
  | cons c front ih =>
    obtain ⟨hc, hfront⟩ := List.forall_mem_cons.1 h
    have hbracket : (c == '[') = false := by
      rw [beq_eq_false_iff_ne]
      rintro rfl
      exact absurd hc (by decide)
    rw [List.cons_append, holdsTag, hbracket, Bool.false_and, Bool.false_or, ih hfront]

theorem dropEscapes_append : dropEscapes (front ++ text) = front ++ dropEscapes text := by
  induction front with
  | nil => rfl
  | cons c front ih =>
    obtain ⟨hc, hfront⟩ := List.forall_mem_cons.1 h
    have hslash : c ≠ '\\' := by
      rintro rfl
      exact absurd hc (by decide)
    rw [List.cons_append, dropEscapes, ih hfront, List.cons_append]
    exact fun _ heq _ => hslash heq

theorem visible_append (htext : ∀ c ∈ text, isHidden c = false ∧ c ≠ '\t') :
    ∀ c ∈ front ++ text, isHidden c = false ∧ c ≠ '\t' := by
  refine List.forall_mem_append.2 ⟨fun c hc => ?_, htext⟩
  have hbland := h c hc
  simp only [isBland, Bool.and_eq_true, bne_iff_ne, Bool.not_eq_true'] at hbland
  exact ⟨hbland.2, hbland.1.2⟩

theorem Inert.append (htext : Inert text) : Inert (front ++ text) where
  untagged := (holdsTag_append h).trans htext.untagged
  unescaped := by rw [dropEscapes_append h, htext.unescaped]
  uncoded := by rw [Emoji.replaceCodes_append (bland_notMem h rfl), htext.uncoded]
  visible := visible_append h htext.visible

theorem Inert.of_bland : Inert front := by
  have hinert := Inert.append h .nil
  rwa [List.append_nil] at hinert

theorem Inert.colon (htext : Inert text) : Inert (front ++ ':' :: ' ' :: text) where
  untagged := (holdsTag_append h).trans htext.untagged
  unescaped := by
    have hcolon : dropEscapes (':' :: ' ' :: text) = ':' :: ' ' :: text := by
      rw [dropEscapes, dropEscapes, htext.unescaped]
      · exact nofun
      · exact nofun
    rw [dropEscapes_append h, hcolon]
  uncoded := by rw [Emoji.replaceCodes_colon (bland_notMem h rfl), htext.uncoded]
  visible := visible_append h (List.forall_mem_cons.2 ⟨by decide, List.forall_mem_cons.2 ⟨by decide, htext.visible⟩⟩)

theorem Inert.colon_last : Inert (front ++ [':']) where
  untagged := holdsTag_append h
  unescaped := dropEscapes_append h
  uncoded := Emoji.replaceCodes_last (bland_notMem h rfl)
  visible := visible_append h (List.forall_mem_singleton.2 (by decide))

end bland

def shownText (text : List Char) : List Char := (Emoji.replaceCodes (dropEscapes text)).filter (!isHidden ·)

theorem Inert.shown {text : List Char} (h : Inert text) : shownText text = text := by
  rw [shownText, h.unescaped, h.uncoded, List.filter_eq_self]
  intro c hc
  rw [(h.visible c hc).1]
  rfl

theorem isBland_of_isDigit {c : Char} (h : c.isDigit = true) : isBland c = true := by
  rw [Char.isDigit, Bool.and_eq_true, decide_eq_true_eq, decide_eq_true_eq] at h
  have hlow : 48 ≤ c.toNat := h.1
  have hhigh : c.toNat ≤ 57 := h.2
  have hall : ∀ i : Fin 10, isBland (Char.ofNat (48 + i.val)) = true := by decide
  have hc := hall ⟨c.toNat - 48, by omega⟩
  have hcode : 48 + (c.toNat - 48) = c.toNat := by omega
  rwa [hcode, Char.ofNat_toNat] at hc

theorem bland_toString (n : Nat) : Bland (toString n).toList := by
  intro c hc
  change c ∈ n.repr.toList at hc
  rw [Nat.toList_repr] at hc
  exact isBland_of_isDigit (Nat.isDigit_of_mem_toDigits (by decide) (by decide) hc)

theorem bland_encode (bytes : List UInt8) : Bland (Hex.encode bytes) := by
  intro c hc
  have hall : ∀ i : Fin 16, isBland (Hex.digitChar i.val) = true := by decide
  obtain ⟨byte, -, hdigit⟩ := List.mem_flatMap.1 hc
  have hbyte := byte.toNat_lt
  rcases List.mem_cons.1 hdigit with rfl | hdigit
  · exact hall ⟨byte.toNat / 16, by omega⟩
  · rw [List.mem_singleton.1 hdigit]
    exact hall ⟨byte.toNat % 16, by omega⟩

end Markup

end GuestForge.Text
