import GuestForge.Proofs.InertText
import Mathlib.Data.List.TakeWhile
set_option autoImplicit false

/-!
# How inert texts are shown

An inert text in a simple style, or in none, is shown as it stands. A closing tag that closes nothing is an error,
wherever the text before it is inert.
-/
namespace GuestForge.Text.Markup

theorem ok_bind {ε α β : Type} (a : α) (next : α → Except ε β) : (Except.ok a >>= next) = next a := rfl

def IsBody (body : List Char) : Prop :=
  ∃ c inner, body = c :: inner ∧ startsTag c = true ∧ ∀ d ∈ inner, d ≠ '[' ∧ d ≠ ']'

theorem tagBody?_body {body : List Char} (h : IsBody body) (rest : List Char) :
    tagBody? (body ++ ']' :: rest) = some body := by
  obtain ⟨c, inner, rfl, hstart, hinner⟩ := h
  have hinside : ∀ d ∈ inner, decide (d ≠ '[' ∧ d ≠ ']') = true := fun d hd => decide_eq_true (hinner d hd)
  have hdrop : (inner ++ ']' :: rest).dropWhile (fun d => decide (d ≠ '[' ∧ d ≠ ']')) = ']' :: rest := by
    rw [List.dropWhile_append_of_pos hinside]
    rfl
  have htake : (inner ++ ']' :: rest).takeWhile (fun d => decide (d ≠ '[' ∧ d ≠ ']')) = inner := by
    rw [List.takeWhile_append_of_pos hinside]
    exact List.append_nil inner
  simp only [List.cons_append, tagBody?, if_pos hstart, hdrop, htake]

theorem tagBody?_append {text after : List Char} (hafter : after = [] ∨ after.head? = some '[') :
    tagBody? (text ++ after) = tagBody? text := by
  cases text with
  | nil =>
    rcases hafter with rfl | hafter
    · rfl
    · obtain ⟨rest, rfl⟩ := List.head?_eq_some_iff.1 hafter
      rfl
  | cons c rest =>
    simp only [List.cons_append, tagBody?, List.dropWhile_append]
    cases hdrop : rest.dropWhile (fun d => decide (d ≠ '[' ∧ d ≠ ']')) with
    | nil =>
      rcases hafter with rfl | hafter
      · rfl
      · obtain ⟨more, rfl⟩ := List.head?_eq_some_iff.1 hafter
        rfl
    | cons d more =>
      have hshort : (rest.takeWhile fun d => decide (d ≠ '[' ∧ d ≠ ']')).length ≠ rest.length := by
        have hlength := congrArg List.length (List.takeWhile_append_dropWhile
          (p := fun d => decide (d ≠ '[' ∧ d ≠ ']')) (l := rest))
        rw [List.length_append, hdrop, List.length_cons] at hlength
        omega
      rw [List.takeWhile_append, if_neg hshort]
      by_cases hend : d = ']'
      · rw [hend]
        rfl
      · simp [hend]

theorem piecesFrom_skip (position slashes : Nat) (plain skipped rest : List Char) :
    piecesFrom position skipped.length slashes plain (skipped ++ rest) =
      piecesFrom (position + skipped.length) 0 slashes plain rest := by
  induction skipped generalizing position with
  | nil => rfl
  | cons c skipped ih =>
    rw [List.length_cons, List.cons_append, piecesFrom, ih]
    congr 1
    omega

theorem piecesFrom_tag {body : List Char} (h : IsBody body) (position slashes : Nat) (plain rest : List Char) :
    piecesFrom position 0 slashes plain ('[' :: (body ++ ']' :: rest)) =
      .plain plain.reverse :: .plain (List.replicate (slashes / 2) '\\') ::
        (if slashes % 2 = 1 then .plain ('[' :: body ++ [']']) else .tag body position) ::
        piecesFrom (position + (body.length + 2)) 0 0 [] rest := by
  have hskip := piecesFrom_skip (position + 1) 0 [] (body ++ [']']) rest
  rw [List.length_append, List.length_singleton, List.append_assoc, List.singleton_append] at hskip
  have hbracket : ¬ '[' = '\\' := by decide
  rw [piecesFrom, if_neg hbracket]
  simp only [if_true, tagBody?_body h, hskip]
  congr 4
  omega

/-- A text without tags leaves its characters to the plain piece that it is in. -/
theorem piecesFrom_untagged {text : List Char} (h : holdsTag text = false) (after : List Char)
    (hafter : after = [] ∨ after.head? = some '[') (position slashes : Nat) (plain : List Char) :
    ∃ slashes' plain',
      piecesFrom position 0 slashes plain (text ++ after) = piecesFrom (position + text.length) 0 slashes' plain' after ∧
      plain'.reverse ++ List.replicate slashes' '\\' = plain.reverse ++ List.replicate slashes '\\' ++ text ∧
      (text ≠ [] ∨ slashes = 0 → text.getLast? ≠ some '\\' → slashes' = 0) := by
  induction text generalizing position slashes plain with
  | nil => exact ⟨slashes, plain, rfl, by simp, fun h _ => h.resolve_left (fun hne => hne rfl)⟩
  | cons c text ih =>
    rw [holdsTag, Bool.or_eq_false_iff] at h
    by_cases hslash : c = '\\'
    · obtain ⟨slashes', plain', hpieces, htext, hlast⟩ := ih h.2 (position + 1) (slashes + 1) plain
      refine ⟨slashes', plain', ?_, ?_, ?_⟩
      · rw [List.cons_append, piecesFrom, if_pos hslash, hpieces, List.length_cons]
        congr 1
        omega
      · rw [htext, hslash, List.replicate_succ', List.append_assoc, List.append_assoc, List.append_assoc]
        rfl
      · intro _ hend
        cases text with
        | nil => exact absurd (by rw [hslash]; rfl) hend
        | cons d text => exact hlast (.inl (List.cons_ne_nil d text)) (by rwa [List.getLast?_cons_cons] at hend)
    · obtain ⟨slashes', plain', hpieces, htext, hlast⟩ :=
        ih h.2 (position + 1) 0 (c :: List.replicate slashes '\\' ++ plain)
      have hnone : (if c = '[' then tagBody? (text ++ after) else none) = none := by
        split
        · rename_i hbracket
          rw [tagBody?_append hafter]
          simpa [hbracket] using h.1
        · rfl
      refine ⟨slashes', plain', ?_, ?_, ?_⟩
      · rw [List.cons_append, piecesFrom, if_neg hslash]
        simp only [hnone, hpieces, List.length_cons]
        congr 1
        omega
      · rw [htext]
        simp
      · intro _ hend
        refine hlast (.inr rfl) fun hlast => hend ?_
        cases text with
        | nil => cases hlast
        | cons d text => rwa [List.getLast?_cons_cons]

/-- A tag that no backslash precedes, with a text without tags before it. -/
theorem piecesFrom_unescaped {text body : List Char} (h : holdsTag text = false) (hend : text.getLast? ≠ some '\\')
    (hbody : IsBody body) (position : Nat) (rest : List Char) :
    piecesFrom position 0 0 [] (text ++ '[' :: (body ++ ']' :: rest)) =
      .plain text :: .plain [] :: .tag body (position + text.length) ::
        piecesFrom (position + text.length + (body.length + 2)) 0 0 [] rest := by
  obtain ⟨slashes, plain, hpieces, htext, hslashes⟩ :=
    piecesFrom_untagged h ('[' :: (body ++ ']' :: rest)) (.inr rfl) position 0 []
  obtain rfl := hslashes (.inr rfl) hend
  simp only [List.replicate_zero, List.reverse_nil, List.nil_append, List.append_nil] at htext
  have heven : ¬ 0 % 2 = 1 := by decide
  rw [hpieces, piecesFrom_tag hbody, htext, Nat.zero_div, List.replicate_zero, if_neg heven]

def shownBehind (text : List Char) (shown : Except Error (List Char × List Span)) : Except Error (List Char × List Span) :=
  shown.map fun (more, spans) => (text ++ more, spans)

section pieces
variable {text rest : List Char} {opened : List Opened} {shown position : Nat} {others : List Piece}

theorem showPieces_plain (text : List Char) :
    showPieces opened shown (.plain text :: others) =
      shownBehind (shownText text) (showPieces opened (shown + (shownText text).length) others) := by
  rw [showPieces]
  change (showPieces opened (shown + (shownText text).length) others >>= fun _ => _) = _
  cases showPieces opened (shown + (shownText text).length) others <;> rfl

theorem showPieces_inert (h : Inert text) :
    showPieces opened shown (.plain text :: others) =
      shownBehind text (showPieces opened (shown + text.length) others) := by
  rw [showPieces_plain, h.shown]

theorem showPieces_empty :
    showPieces opened shown (.plain [] :: others) = showPieces opened shown others := by
  rw [showPieces_inert Inert.nil]
  cases showPieces opened shown others <;> rfl

def showFrom (opened : List Opened) (shown position : Nat) (text : List Char) : Except Error (List Char × List Span) :=
  showPieces opened shown (piecesFrom position 0 0 [] text)

theorem showFrom_inert (h : Inert text) :
    showFrom opened shown position text = .ok (text, opened.map (·.span (shown + text.length))) := by
  obtain ⟨slashes, plain, hpieces, htext, -⟩ := piecesFrom_untagged h.untagged [] (.inl rfl) position 0 []
  rw [List.append_nil] at hpieces
  unfold showFrom
  rw [hpieces, piecesFrom, htext, List.reverse_nil, List.replicate_zero, List.nil_append, List.nil_append,
    showPieces_inert h, showPieces]
  exact congrArg Except.ok (Prod.ext (List.append_nil text) rfl)

theorem showFrom_tag (h : Inert text) (hend : text.getLast? ≠ some '\\') {body : List Char} (hbody : IsBody body) :
    showFrom opened shown position (text ++ '[' :: (body ++ ']' :: rest)) =
      shownBehind text (showPieces opened (shown + text.length)
        (.tag body (position + text.length) ::
          piecesFrom (position + text.length + (body.length + 2)) 0 0 [] rest)) := by
  unfold showFrom
  rw [piecesFrom_unescaped h.untagged hend hbody, showPieces_inert h, showPieces_empty]

end pieces

/-- A style with a name that is its own normal form and needs no parameter. -/
structure SimpleStyle (name : String) : Prop where
  body : IsBody name.toList
  split : splitBody name.toList = (name.toList, none)
  splitClosing : splitBody ('/' :: name.toList) = ('/' :: name.toList, none)
  opens : name.toList.head? ≠ some '/'
  noAction : name.toList.head? ≠ some '@'
  trimmed : Blank.trim name.toList = name.toList
  named : name.toList ≠ []
  normal : normalForm name.toList = .ok name
  noNumber : StyleName.numberError? name = none

theorem SimpleStyle.closingBody {name : String} (h : SimpleStyle name) : IsBody ('/' :: name.toList) := by
  obtain ⟨c, inner, hname, hstart, hinner⟩ := h.body
  refine ⟨'/', name.toList, rfl, rfl, ?_⟩
  rw [hname]
  refine List.forall_mem_cons.2 ⟨⟨?_, ?_⟩, hinner⟩
  · rintro rfl
    cases hstart
  · rintro rfl
    cases hstart

section styles
variable {name : String} {opened : List Opened} {shown start position : Nat} {others : List Piece}

theorem showPieces_open (h : SimpleStyle name) :
    showPieces opened shown (.tag name.toList position :: others) =
      showPieces (⟨name, none, shown⟩ :: opened) shown others := by
  rw [showPieces]
  simp only [h.split]
  split
  · rename_i rest parameter heq
    exact absurd (by rw [(Prod.mk.inj heq).1]; rfl) h.opens
  · rename_i heq
    obtain ⟨rfl, rfl⟩ := Prod.mk.inj heq
    rw [h.normal]
    rfl

theorem showPieces_close (h : SimpleStyle name) :
    showPieces (⟨name, none, start⟩ :: opened) shown (.tag ('/' :: name.toList) position :: others) =
      (showPieces opened shown others).map fun (text, spans) => (text, ⟨start, shown, name⟩ :: spans) := by
  have hclose : close? name (⟨name, none, start⟩ :: opened) = some (⟨name, none, start⟩, opened) := by
    rw [close?, if_pos (.inr rfl)]
  have hspan : Opened.close ⟨name, none, start⟩ shown = .ok [⟨start, shown, name⟩] := by
    rw [Opened.close, if_neg h.noAction]
    rfl
  rw [showPieces]
  simp only [h.splitClosing, h.trimmed, if_neg h.named, h.normal, ok_bind]
  rw [hclose]
  simp only [hspan]
  cases showPieces opened shown others <;> rfl

theorem showPieces_unmatched {closing : List Char} {style : String}
    (hsplit : splitBody ('/' :: closing) = ('/' :: closing, none)) (hname : Blank.trim closing ≠ [])
    (hnormal : normalForm (Blank.trim closing) = .ok style) (hclose : close? style opened = none) :
    showPieces opened shown (.tag ('/' :: closing) position :: others) =
      .error (.unmatched (String.ofList ('[' :: '/' :: closing ++ [']'])) position) := by
  rw [showPieces]
  simp only [hsplit, if_neg hname, hnormal, ok_bind]
  rw [hclose]

end styles

theorem findSome?_visibleSpans {spans : List Span} (h : ∀ span ∈ spans, StyleName.numberError? span.style = none)
    (text : List Char) : (visibleSpans text spans).findSome? (fun span => StyleName.numberError? span.style) = none := by
  rw [List.findSome?_eq_none_iff]
  intro span hspan
  refine h span ?_
  unfold visibleSpans at hspan
  split at hspan
  · obtain ⟨range, -, hspan⟩ := List.mem_flatMap.1 hspan
    exact List.mem_reverse.1 (List.mem_mergeSort.1 (List.mem_filter.1 hspan).1)
  · exact List.mem_reverse.1 (List.mem_mergeSort.1 hspan)

theorem render_ok {markup : String} {text : List Char} {spans : List Span}
    (h : showFrom [] 0 0 markup.toList = .ok (text, spans))
    (hspans : ∀ span ∈ spans, StyleName.numberError? span.style = none) :
    render markup = .ok (String.ofList (CellWidth.expandTabs text)) := by
  have hshow : showPieces [] 0 (pieces markup.toList) = .ok (text, spans) := h
  unfold render
  rw [hshow, ok_bind]
  dsimp only
  rw [findSome?_visibleSpans hspans]

theorem render_error {markup : String} {error : Error} (h : showFrom [] 0 0 markup.toList = .error error) :
    render markup = .error error := by
  have hshow : showPieces [] 0 (pieces markup.toList) = .error error := h
  unfold render
  rw [hshow]
  rfl

theorem Inert.notMem_tab {text : List Char} (h : Inert text) : '\t' ∉ text := fun hmem => (h.visible _ hmem).2 rfl

theorem render_inert {text : String} (h : Inert text.toList) : render text = .ok text := by
  have hrender : render text = .ok (String.ofList (CellWidth.expandTabs text.toList)) :=
    render_ok (showFrom_inert h) nofun
  rwa [CellWidth.expandTabs_eq h.notMem_tab, String.ofList_toList] at hrender

/-- An inert text in a style, with an inert text before it. Behind a backslash the closing tag would be none. -/
theorem render_styled {name : String} (hstyle : SimpleStyle name) {markup : String} {before text : List Char}
    (hmarkup : markup.toList =
      before ++ '[' :: (name.toList ++ ']' :: (text ++ '[' :: ('/' :: name.toList ++ ']' :: []))))
    (hbefore : Inert before) (hend : before.getLast? ≠ some '\\') (h : Inert text)
    (hend' : text.getLast? ≠ some '\\') : render markup = .ok (String.ofList (before ++ text)) := by
  have hshow : showFrom [] 0 0 markup.toList =
      .ok (before ++ text, [⟨before.length, before.length + text.length, name⟩]) := by
    rw [hmarkup, showFrom_tag hbefore hend hstyle.body, showPieces_open hstyle]
    change shownBehind before (showFrom _ _ _ (text ++ '[' :: ('/' :: name.toList ++ ']' :: []))) = _
    rw [showFrom_tag h hend' hstyle.closingBody, showPieces_close hstyle]
    change shownBehind before (shownBehind text ((showFrom [] _ _ []).map _)) = _
    rw [showFrom_inert .nil, Nat.zero_add]
    change Except.ok (before ++ (text ++ []), _) = _
    rw [List.append_nil]
    rfl
  have htabs : '\t' ∉ before ++ text := by
    rw [List.mem_append, not_or]
    exact ⟨hbefore.notMem_tab, h.notMem_tab⟩
  rw [render_ok hshow, CellWidth.expandTabs_eq htabs]
  intro span hspan
  rw [List.mem_singleton.1 hspan]
  exact hstyle.noNumber

def Shows (opened : List Opened) (others : List Piece) : Prop :=
  ∀ shown, ∃ text spans, showPieces opened shown others = .ok (text, spans) ∧
    ∀ span ∈ spans, StyleName.numberError? span.style = none

namespace Shows
variable {name : String} {opened : List Opened} {others : List Piece} {text : List Char} {position : Nat}

theorem nil (h : ∀ tag ∈ opened, ∀ stop, StyleName.numberError? (tag.span stop).style = none) : Shows opened [] := by
  intro shown
  refine ⟨[], _, rfl, fun span hspan => ?_⟩
  obtain ⟨tag, htag, rfl⟩ := List.mem_map.1 hspan
  exact h tag htag shown

theorem plain (h : Shows opened others) (text : List Char) : Shows opened (.plain text :: others) := by
  intro shown
  obtain ⟨more, spans, hshow, hspans⟩ := h (shown + (shownText text).length)
  refine ⟨shownText text ++ more, spans, ?_, hspans⟩
  rw [showPieces_plain, hshow]
  rfl

theorem opening (hstyle : SimpleStyle name) (h : ∀ start, Shows (⟨name, none, start⟩ :: opened) others) :
    Shows opened (.tag name.toList position :: others) := by
  intro shown
  rw [showPieces_open hstyle]
  exact h shown shown

theorem closing (hstyle : SimpleStyle name) (h : Shows opened others) (start : Nat) :
    Shows (⟨name, none, start⟩ :: opened) (.tag ('/' :: name.toList) position :: others) := by
  intro shown
  obtain ⟨text, spans, hshow, hspans⟩ := h shown
  refine ⟨text, ⟨start, shown, name⟩ :: spans, ?_, List.forall_mem_cons.2 ⟨hstyle.noNumber, hspans⟩⟩
  rw [showPieces_close hstyle, hshow]
  rfl

theorem untagged (h : holdsTag text = false)
    (hopened : ∀ tag ∈ opened, ∀ stop, StyleName.numberError? (tag.span stop).style = none) :
    Shows opened (piecesFrom position 0 0 [] text) := by
  obtain ⟨slashes, before, hpieces, -, -⟩ := piecesFrom_untagged h [] (.inl rfl) position 0 []
  rw [List.append_nil] at hpieces
  rw [hpieces, piecesFrom]
  exact (nil hopened).plain _

theorem tagged {body rest : List Char} (h : holdsTag text = false) (hbody : IsBody body)
    (hrest : ∀ position, Shows opened (piecesFrom position 0 0 [] rest))
    (htag : ∀ position position', Shows opened (.tag body position :: piecesFrom position' 0 0 [] rest)) :
    Shows opened (piecesFrom position 0 0 [] (text ++ '[' :: (body ++ ']' :: rest))) := by
  obtain ⟨slashes, before, hpieces, -, -⟩ :=
    piecesFrom_untagged h ('[' :: (body ++ ']' :: rest)) (.inr rfl) position 0 []
  rw [hpieces, piecesFrom_tag hbody]
  refine plain (plain ?_ _) _
  split
  · exact (hrest _).plain _
  · exact htag _ _

end Shows

theorem Shows.render {markup : String} (h : Shows [] (pieces markup.toList)) : ∃ text, render markup = .ok text := by
  obtain ⟨text, spans, hshow, hspans⟩ := h 0
  exact ⟨_, render_ok hshow hspans⟩

theorem render_untagged {text : String} (h : holdsTag text.toList = false) : ∃ shown, render text = .ok shown :=
  (Shows.untagged h (List.forall_mem_nil _)).render

/-- In a style, even if that is closed by nothing: the text may end with a backslash. -/
theorem render_styled_untagged {name : String} (hstyle : SimpleStyle name) {markup : String} {before text : List Char}
    (hmarkup : markup.toList =
      before ++ '[' :: (name.toList ++ ']' :: (text ++ '[' :: ('/' :: name.toList ++ ']' :: []))))
    (hbefore : Inert before) (hend : before.getLast? ≠ some '\\') (h : holdsTag text = false) :
    ∃ shown, render markup = .ok shown := by
  have hopened (start : Nat) : ∀ tag ∈ [(⟨name, none, start⟩ : Opened)], ∀ stop,
      StyleName.numberError? (tag.span stop).style = none := by
    intro tag htag stop
    rw [List.mem_singleton.1 htag]
    exact hstyle.noNumber
  have hclosed (start position : Nat) : Shows [⟨name, none, start⟩]
      (piecesFrom position 0 0 [] (text ++ '[' :: ('/' :: name.toList ++ ']' :: []))) :=
    .tagged h hstyle.closingBody (fun position => .untagged rfl (hopened start))
      fun position position' => .closing hstyle (.untagged rfl (List.forall_mem_nil _)) start
  refine Shows.render ?_
  rw [hmarkup, pieces, piecesFrom_unescaped hbefore.untagged hend hstyle.body]
  exact .plain (.plain (.opening hstyle fun start => hclosed start _) _) _

/-- The first tag of the text is a closing one, of a style that is not among those that are open. -/
structure ClosesNothing (opened : List String) (text before closing rest : List Char) (style : String) : Prop where
  text_eq : text = before ++ '[' :: ('/' :: closing ++ ']' :: rest)
  inert : Inert before
  unescaped : before.getLast? ≠ some '\\'
  body : ∀ c ∈ closing, c ≠ '[' ∧ c ≠ ']' ∧ c ≠ '='
  named : Blank.trim closing ≠ []
  normal : normalForm (Blank.trim closing) = .ok style
  notOpen : style ∉ "" :: opened

theorem close?_eq_none {style : String} {opened : List Opened} (h : style ∉ "" :: opened.map Opened.name) :
    close? style opened = none := by
  induction opened with
  | nil => rfl
  | cons tag opened ih =>
    simp only [List.map_cons, List.mem_cons, not_or] at h
    have hother : ¬ (style = "" ∨ tag.name = style) := fun hor => hor.elim h.1 fun heq => h.2.1 heq.symm
    rw [close?, if_neg hother, ih (by simp only [List.mem_cons, not_or]; exact ⟨h.1, h.2.2⟩)]
    rfl

theorem ClosesNothing.showFrom (opened : List Opened) {text before closing rest : List Char} {style : String}
    (h : ClosesNothing (opened.map Opened.name) text before closing rest style) (shown position : Nat) :
    showFrom opened shown position text =
      .error (.unmatched (String.ofList ('[' :: '/' :: closing ++ [']'])) (position + before.length)) := by
  have hbody : IsBody ('/' :: closing) := ⟨'/', closing, rfl, rfl, fun c hc => ⟨(h.body c hc).1, (h.body c hc).2.1⟩⟩
  have hplain : ∀ c ∈ '/' :: closing, decide (c ≠ '=') = true :=
    List.forall_mem_cons.2 ⟨rfl, fun c hc => decide_eq_true (h.body c hc).2.2⟩
  have hsplit : splitBody ('/' :: closing) = ('/' :: closing, none) := by
    rw [splitBody, List.takeWhile_eq_self_iff.2 hplain, List.dropWhile_eq_nil_iff.2 hplain]
    rfl
  rw [h.text_eq, showFrom_tag h.inert h.unescaped hbody,
    showPieces_unmatched hsplit h.named h.normal (close?_eq_none h.notOpen)]
  rfl

theorem ClosesNothing.render {markup : String} {before closing rest : List Char} {style : String}
    (h : ClosesNothing [] markup.toList before closing rest style) :
    render markup = .error (.unmatched (String.ofList ('[' :: '/' :: closing ++ [']'])) before.length) := by
  have hshow := ClosesNothing.showFrom [] h 0 0
  rw [Nat.zero_add] at hshow
  exact render_error hshow

theorem ClosesNothing.render_styled {name : String} (hstyle : SimpleStyle name) {markup : String}
    {front text before closing rest : List Char} {style : String} (h : ClosesNothing [name] text before closing rest style)
    (hmarkup : markup.toList = front ++ '[' :: (name.toList ++ ']' :: text)) (hfront : Inert front)
    (hend : front.getLast? ≠ some '\\') :
    Markup.render markup = .error (.unmatched (String.ofList ('[' :: '/' :: closing ++ [']']))
      (front.length + (name.toList.length + 2) + before.length)) := by
  have hshow := ClosesNothing.showFrom [⟨name, none, front.length⟩] h front.length
    (front.length + (name.toList.length + 2))
  refine render_error ?_
  rw [hmarkup, showFrom_tag hfront hend hstyle.body, showPieces_open hstyle, Nat.zero_add]
  change shownBehind front (Markup.showFrom _ _ _ text) = _
  rw [hshow]
  rfl

theorem simpleStyle_red : SimpleStyle "red" := by
  refine ⟨⟨'r', ['e', 'd'], rfl, rfl, by simp⟩, rfl, rfl, by decide, by decide, rfl, by decide, rfl, rfl⟩

theorem simpleStyle_green : SimpleStyle "green" := by
  refine ⟨⟨'g', ['r', 'e', 'e', 'n'], rfl, rfl, by simp⟩, rfl, rfl, by decide, by decide, rfl, by decide, rfl, rfl⟩

theorem simpleStyle_bold : SimpleStyle "bold" := by
  refine ⟨⟨'b', ['o', 'l', 'd'], rfl, rfl, by simp⟩, rfl, rfl, by decide, by decide, rfl, by decide, rfl, rfl⟩

end GuestForge.Text.Markup
