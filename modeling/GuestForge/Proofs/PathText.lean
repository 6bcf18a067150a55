import GuestForge.Publish.Guest
import Mathlib.Data.List.Induction
set_option autoImplicit false

/-!
# Paths as texts, and the names of published files

Writing a path and reading the text gives the path back, so replacing an extension, which goes through the text,
amounts to replacing the last name. The files that belong to one guest are its siblings: one stem with one of
four extensions. Different stems or extensions never make the same name.
-/
namespace GuestForge

theorem segments_eq_splitOn (separator : Char) (text : List Char) :
    Text.segments separator text = text.splitOn separator := by
  induction text with
  | nil => rfl
  | cons c rest ih =>
    rw [Text.segments, ih, List.splitOn, List.splitOn, List.splitOnP_cons_eq_if_modifyHead]
    simp only [beq_iff_eq]
    split
    · rfl
    · cases h : rest.splitOnP (· == separator) with
      | nil => exact absurd h (List.splitOnP_ne_nil _ _)
      | cons first others => rfl

theorem exists_last_of_mem {c : Char} {text : List Char} (h : c ∈ text) :
    ∃ before after, text = before ++ c :: after ∧ c ∉ after := by
  induction text with
  | nil => cases h
  | cons d rest ih =>
    by_cases hrest : c ∈ rest
    · obtain ⟨before, after, rfl, hafter⟩ := ih hrest
      exact ⟨d :: before, after, rfl, hafter⟩
    · obtain rfl : c = d := (List.mem_cons.1 h).resolve_right hrest
      exact ⟨[], rest, rfl, hrest⟩

namespace Text

theorem segments_append {separator : Char} {front : List Char} (h : separator ∉ front) (text : List Char) :
    ∃ first others, segments separator text = first :: others ∧
      segments separator (front ++ text) = (front ++ first) :: others := by
  induction front with
  | nil =>
    cases hsegments : segments separator text with
    | nil =>
      rw [segments_eq_splitOn] at hsegments
      exact absurd hsegments (List.splitOn_ne_nil _ _)
    | cons first others => exact ⟨first, others, rfl, hsegments⟩
  | cons c front ih =>
    obtain ⟨hc, hfront⟩ := not_or.1 (fun hmem => h (List.mem_cons.2 hmem))
    obtain ⟨first, others, htext, happend⟩ := ih hfront
    refine ⟨first, others, htext, ?_⟩
    rw [List.cons_append, segments, if_neg (Ne.symm hc), happend]
    rfl

theorem segments_of_notMem {separator : Char} {text : List Char} (h : separator ∉ text) :
    segments separator text = [text] := by
  obtain ⟨first, others, hnil, htext⟩ := segments_append h []
  cases hnil
  rwa [List.append_nil] at htext

theorem mem_of_mem_segments {separator c : Char} {text segment : List Char} (h : segment ∈ segments separator text)
    (hc : c ∈ segment) : c ∈ text := by
  induction text generalizing segment with
  | nil =>
    rw [segments, List.mem_singleton] at h
    rwa [h] at hc
  | cons d text ih =>
    rw [segments] at h
    split at h
    · rcases List.mem_cons.1 h with rfl | h
      · cases hc
      · exact List.mem_cons_of_mem d (ih h hc)
    · split at h
      · rw [List.mem_singleton] at h
        rw [h, List.mem_singleton] at hc
        exact hc ▸ List.mem_cons_self
      · rename_i first others hsegments
        rw [hsegments] at ih
        rcases List.mem_cons.1 h with rfl | h
        · rcases List.mem_cons.1 hc with rfl | hc
          · exact List.mem_cons_self
          · exact List.mem_cons_of_mem d (ih List.mem_cons_self hc)
        · exact List.mem_cons_of_mem d (ih (List.mem_cons_of_mem first h) hc)

end Text

namespace Name

theorem ofString?_text (name : Name) : ofString? name.text = some name := dif_pos name.valid

theorem splitLastDot_eq_some {text before after : List Char} (h : splitLastDot text = some (before, after)) :
    text = before ++ '.' :: after := by
  induction text generalizing before with
  | nil => cases h
  | cons c rest ih =>
    rw [splitLastDot] at h
    split at h
    · cases h
      rw [ih ‹_›]
      rfl
    · split at h
      · cases h
        subst_vars
        rfl
      · cases h

theorem stemOf_isPrefix (text : List Char) : stemOf text <+: text := by
  unfold stemOf
  split
  · rename_i c before after h
    exact ⟨'.' :: after, (splitLastDot_eq_some h).symm⟩
  · exact List.prefix_rfl

end Name

namespace Path

theorem segments_names (names : List Name) (h : names ≠ []) :
    segments ("/".intercalate (names.map Name.text)).toList = names.map fun name => name.text.toList := by
  rw [segments, segments_eq_splitOn, String.toList_intercalate, List.map_map]
  exact List.splitOn_intercalate '/' (by simp [fun name : Name => name.valid.2.2]) (by simpa using h)

theorem filterMap_names (names : List Name) :
    (names.map fun name => name.text.toList).filterMap (fun piece => Name.ofString? (String.ofList piece)) =
      names := by
  induction names with
  | nil => rfl
  | cons name rest ih =>
    rw [List.map_cons, List.filterMap_cons, String.ofList_toList, name.ofString?_text, ih]

theorem head?_names (names : List Name) :
    ("/".intercalate (names.map Name.text)).toList.head? ≠ some '/' := by
  cases names with
  | nil => decide
  | cons name rest =>
    rw [String.toList_intercalate]
    cases htext : name.text.toList with
    | nil => exact absurd (String.toList_eq_nil_iff.1 htext) name.valid.1
    | cons c others =>
      have hslash : c ≠ '/' := fun h => name.valid.2.2 (by simp [htext, h])
      cases rest with
      | nil => simpa [htext] using hslash
      | cons next rest => simpa [List.intercalate_cons_cons, htext] using hslash

theorem segments_anchored (anchor : Anchor) (text : List Char) :
    (segments ((anchorText anchor).toList ++ text)).filterMap (fun piece => Name.ofString? (String.ofList piece)) =
      (segments text).filterMap fun piece => Name.ofString? (String.ofList piece) := by
  cases anchor <;> rfl

theorem anchorOf_anchored (anchor : Anchor) (text : List Char) (h : text.head? ≠ some '/') :
    anchorOf ((anchorText anchor).toList ++ text) = anchor := by
  cases text with
  | nil => cases anchor <;> rfl
  | cons c rest =>
    have hslash : c ≠ '/' := fun hc => h (by rw [hc]; rfl)
    cases anchor with
    | relative => simp [anchorText, anchorOf, hslash]
    | root => simp [anchorText, anchorOf, hslash]
    | doubleRoot => simp [anchorText, anchorOf, hslash]

theorem ofString_write (anchor : Anchor) (names : List Name) :
    ofString (write anchor (names.map Name.text)) = ⟨anchor, names⟩ := by
  by_cases hdot : anchor = .relative ∧ names.map Name.text = []
  · obtain ⟨rfl, hnil⟩ := hdot
    rw [hnil, List.map_eq_nil_iff.1 hnil]
    rfl
  · rw [write, if_neg hdot, ofString, String.toList_append, segments_anchored,
      anchorOf_anchored anchor _ (head?_names names)]
    by_cases hnil : names = []
    · subst hnil
      rfl
    · rw [segments_names names hnil, filterMap_names]

theorem ofString_toString (path : Path) : ofString path.toString = path := ofString_write path.anchor path.names

theorem toString_injective : Function.Injective toString := Function.LeftInverse.injective ofString_toString

theorem ofString_text (name : Name) : ofString name.text = ⟨.relative, [name]⟩ := ofString_write .relative [name]

theorem slash_notMem_stem (path : Path) : '/' ∉ path.stem.toList := by
  have hname : '/' ∉ path.fileName.toList := by
    unfold fileName
    cases path.name? with
    | none => decide
    | some name => exact name.valid.2.2
  rw [stem, String.toList_ofList]
  exact fun h => hname ((Name.stemOf_isPrefix _).subset h)

theorem extended_valid (path : Path) (extension : Name) :
    path.stem ++ extension.text ≠ "" ∧ path.stem ++ extension.text ≠ "." ∧
      '/' ∉ (path.stem ++ extension.text).toList := by
  obtain ⟨hempty, hdot, hslash⟩ := extension.valid
  have hlist : extension.text.toList ≠ [] := fun h => hempty (String.toList_eq_nil_iff.1 h)
  refine ⟨?_, ?_, ?_⟩
  · intro h
    have := congrArg String.toList h
    simp [hempty] at this
  · intro h
    have happ := congrArg String.toList h
    rw [String.toList_append, show ".".toList = ['.'] from rfl, List.append_eq_singleton_iff] at happ
    rcases happ with ⟨-, hext⟩ | ⟨-, hext⟩
    · exact hdot (String.toList_inj.1 hext)
    · exact hlist hext
  · rw [String.toList_append, List.mem_append]
    exact fun h => h.elim path.slash_notMem_stem hslash

def extended (path : Path) (extension : Name) : Name := ⟨path.stem ++ extension.text, extended_valid path extension⟩

def withLast (path : Path) (name : Name) : Path := ⟨path.anchor, path.names.dropLast ++ [name]⟩

theorem spellsName_text (name : Name) : spellsName name.text = true := by
  have hhead : name.text.toList.head? ≠ some '/' := fun h => name.valid.2.2 (List.mem_of_mem_head? h)
  have hlast : name.text.toList.getLast? ≠ some '/' := fun h => name.valid.2.2 (List.mem_of_mem_getLast? h)
  simp [spellsName, hhead, hlast, ofString_text]

theorem withExtension_eq_withLast {path : Path} (h : path.names ≠ []) {suffix : String} (name : Name)
    (hname : path.stem ++ suffix = name.text) : path.withExtension suffix = .ok (path.withLast name) := by
  unfold withExtension respellExtension respell
  have hwrite := ofString_write path.anchor (path.names.dropLast ++ [name])
  rw [List.map_append] at hwrite
  rw [if_neg h, hname, if_pos (spellsName_text name)]
  exact congrArg Except.ok hwrite

theorem withExtension_eq_ok {path : Path} (h : path.names ≠ []) (extension : Name) :
    path.withExtension extension.text = .ok (path.withLast (path.extended extension)) :=
  withExtension_eq_withLast h (path.extended extension) rfl

theorem withExtension_eq_error {path : Path} (h : path.names = []) (suffix : String) :
    path.withExtension suffix = .error (.noName path) := by
  unfold withExtension respellExtension respell
  rw [if_pos h]
  rfl

end Path

inductive Sibling where
  | elf
  | legacy
  | id (context : Context)
  deriving DecidableEq

namespace Sibling

def extension : Sibling → Name
  | .elf => ⟨".elf", by decide⟩
  | .legacy => ⟨".iid", by decide⟩
  | .id .user => ⟨".uid", by decide⟩
  | .id .kernel => ⟨".kid", by decide⟩

theorem extension_id (context : Context) : (Sibling.id context).extension.text = context.suffix := by
  cases context <;> rfl

theorem extension_length (sibling : Sibling) : sibling.extension.text.toList.length = 4 := by
  rcases sibling with _ | _ | ⟨_ | _⟩ <;> rfl

theorem extension_injective {sibling other : Sibling} (h : sibling.extension.text = other.extension.text) :
    sibling = other := by
  rcases sibling with _ | _ | ⟨_ | _⟩ <;> rcases other with _ | _ | ⟨_ | _⟩ <;> first | rfl | exact absurd h (by decide)

end Sibling

def siblingAt (directory : Location) (stem : String) (sibling : Sibling) : Location :=
  directory ++ [stem ++ sibling.extension.text]

theorem siblingAt_inj {directory directory' : Location} {stem stem' : String} {sibling sibling' : Sibling} :
    siblingAt directory stem sibling = siblingAt directory' stem' sibling' ↔
      directory = directory' ∧ stem = stem' ∧ sibling = sibling' := by
  constructor
  · intro h
    obtain ⟨hdirectory, hname⟩ := List.append_inj' h rfl
    have hlist := congrArg String.toList (List.singleton_inj.1 hname)
    rw [String.toList_append, String.toList_append] at hlist
    obtain ⟨hstem, hextension⟩ :=
      List.append_inj' hlist (by rw [Sibling.extension_length, Sibling.extension_length])
    exact ⟨hdirectory, String.toList_inj.1 hstem, Sibling.extension_injective (String.toList_inj.1 hextension)⟩
  · rintro ⟨rfl, rfl, rfl⟩
    rfl

namespace Path

def beside (path : Path) (sibling : Sibling) : Path := path.withLast (path.extended sibling.extension)

theorem parent_beside (path : Path) (sibling : Sibling) : (path.beside sibling).parent = path.parent := by
  rw [beside, withLast, parent, List.dropLast_concat]
  rfl

theorem extended_ne_up (path : Path) (sibling : Sibling) : (path.extended sibling.extension).text ≠ ".." := by
  intro h
  have hlength := congrArg (fun text => text.toList.length) h
  simp only [extended, String.toList_append, List.length_append, Sibling.extension_length] at hlength
  have htwo : "..".toList.length = 2 := rfl
  omega

theorem exists_toString_beside (path : Path) :
    ∃ text, ∀ sibling, (path.beside sibling).toString = text ++ sibling.extension.text := by
  have hwrite : ∀ sibling, (path.beside sibling).toString = anchorText path.anchor ++
      "/".intercalate (path.names.dropLast.map Name.text ++ [path.stem ++ sibling.extension.text]) := by
    intro sibling
    have hne : ¬ (path.anchor = .relative ∧
        path.names.dropLast.map Name.text ++ [path.stem ++ sibling.extension.text] = []) := by simp
    rw [beside, toString, withLast, List.map_append]
    exact if_neg hne
  by_cases houter : path.names.dropLast.map Name.text = []
  · refine ⟨anchorText path.anchor ++ path.stem, fun sibling => ?_⟩
    rw [hwrite, houter, List.nil_append, String.intercalate_singleton, String.append_assoc]
  · refine ⟨anchorText path.anchor ++ ("/".intercalate (path.names.dropLast.map Name.text) ++ "/" ++ path.stem),
      fun sibling => ?_⟩
    rw [hwrite, String.intercalate_append_of_ne_nil houter (by simp), String.intercalate_singleton]
    simp only [String.append_assoc]

theorem utf8ByteSize_extended (path : Path) (sibling : Sibling) :
    (path.extended sibling.extension).text.utf8ByteSize = path.stem.utf8ByteSize + 4 := by
  rw [extended, String.utf8ByteSize_append]
  rcases sibling with _ | _ | ⟨_ | _⟩ <;> rfl

theorem utf8ByteSize_beside (path : Path) (sibling other : Sibling) :
    (path.beside sibling).toString.utf8ByteSize = (path.beside other).toString.utf8ByteSize := by
  obtain ⟨text, htext⟩ := path.exists_toString_beside
  rw [htext, htext, String.utf8ByteSize_append, String.utf8ByteSize_append]
  rcases sibling with _ | _ | ⟨_ | _⟩ <;> rcases other with _ | _ | ⟨_ | _⟩ <;> rfl

theorem nul_mem_beside (path : Path) (sibling other : Sibling) :
    '\x00' ∈ (path.beside sibling).toString.toList ↔ '\x00' ∈ (path.beside other).toString.toList := by
  obtain ⟨text, htext⟩ := path.exists_toString_beside
  have hnone : ∀ sibling : Sibling, '\x00' ∉ sibling.extension.text.toList := by
    rintro (_ | _ | ⟨_ | _⟩) <;> decide
  rw [htext, htext, String.toList_append, String.toList_append, List.mem_append, List.mem_append]
  simp only [hnone, or_false]

theorem parent_reverse (anchor : Anchor) (name : Name) (outer : List Name) :
    (⟨anchor, (name :: outer).reverse⟩ : Path).parent = ⟨anchor, outer.reverse⟩ := by
  rw [parent, List.reverse_cons, List.dropLast_concat]

theorem utf8ByteSize_parent {path : Path} (h : path.names ≠ []) :
    path.parent.toString.utf8ByteSize ≤ path.toString.utf8ByteSize := by
  obtain ⟨outer, name, hnames⟩ := (List.eq_nil_or_concat path.names).resolve_left h
  rw [List.concat_eq_append] at hnames
  have hparent : path.parent.toString = write path.anchor (outer.map Name.text) := by
    rw [parent, hnames, List.dropLast_concat]
    rfl
  have hpath : path.toString =
      anchorText path.anchor ++ "/".intercalate (outer.map Name.text ++ [name.text]) := by
    rw [toString, hnames, List.map_append]
    exact if_neg (by simp)
  rw [hpath, hparent, write, String.utf8ByteSize_append]
  split
  · -- The relative path without names is a dot, and no name is shorter.
    rename_i hdot
    have hname : name.text.utf8ByteSize ≠ 0 := fun hzero => name.valid.1 (String.utf8ByteSize_eq_zero_iff.1 hzero)
    rw [hdot.2, List.nil_append, String.intercalate_singleton]
    have hone : ".".utf8ByteSize = 1 := rfl
    omega
  · rw [String.utf8ByteSize_append]
    by_cases houter : outer.map Name.text = []
    · rw [houter, List.nil_append, String.intercalate_singleton]
      have hzero : ("/".intercalate []).utf8ByteSize = 0 := rfl
      omega
    · rw [String.intercalate_append_of_ne_nil houter (by simp), String.utf8ByteSize_append, String.utf8ByteSize_append]
      omega

end Path
end GuestForge
