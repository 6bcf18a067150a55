import GuestForge.Proofs.PublishedPaths
set_option autoImplicit false

/-!
# Extensions

A name is a stem with an extension, or a stem alone. Putting another extension in the place of the last one keeps the
directory and the stem, so only the last replacement counts, and the new path says what it was made from: its directory,
the stem, and the extension. The identifier files of a guest can be derived from its published binary for that reason.
-/
namespace GuestForge

namespace Name

/-- What is left of a name without its last extension: a dot at the head starts none, and nothing need follow one at the
end. -/
inductive IsStem : List Char → List Char → Prop
  | extended {stem extension : List Char} (nonempty : stem ≠ []) (last : '.' ∉ extension) :
      IsStem (stem ++ '.' :: extension) stem
  | whole {name : List Char} (plain : '.' ∉ name.tail) : IsStem name name

theorem splitLastDot_eq_none {text : List Char} (h : '.' ∉ text) : splitLastDot text = none := by
  induction text with
  | nil => rfl
  | cons c rest ih =>
    have hparts : '.' ≠ c ∧ '.' ∉ rest := by simpa using h
    rw [splitLastDot, ih hparts.2]
    exact if_neg (Ne.symm hparts.1)

theorem splitLastDot_append {after : List Char} (h : '.' ∉ after) (before : List Char) :
    splitLastDot (before ++ '.' :: after) = some (before, after) := by
  induction before with
  | nil => simp [splitLastDot, splitLastDot_eq_none h]
  | cons c rest ih => simp [splitLastDot, ih]

theorem stemOf_eq {name stem : List Char} (h : IsStem name stem) : stemOf name = stem := by
  cases h with
  | @extended _ extension nonempty last =>
    obtain ⟨c, rest, rfl⟩ := List.exists_cons_of_ne_nil nonempty
    rw [stemOf, splitLastDot_append last]
  | whole plain =>
    cases name with
    | nil => rfl
    | cons c rest =>
      -- A dot can only be the first character, and then nothing stands before it.
      rw [List.tail_cons] at plain
      rw [stemOf, splitLastDot, splitLastDot_eq_none plain]
      by_cases hdot : c = '.'
      · simp [hdot]
      · simp [hdot]

theorem isStem_stemOf (name : List Char) : IsStem name (stemOf name) := by
  by_cases hdot : '.' ∈ name.tail
  · cases name with
    | nil => simp at hdot
    | cons c rest =>
      obtain ⟨before, after, hrest, hafter⟩ := exists_last_of_mem hdot
      have hsplit : c :: rest = (c :: before) ++ '.' :: after := by
        rw [List.cons_append, ← hrest, List.tail_cons]
      rw [hsplit, stemOf, splitLastDot_append hafter]
      exact .extended (List.cons_ne_nil _ _) hafter
  · rw [stemOf_eq (.whole hdot)]
    exact .whole hdot

theorem stemOf_eq_iff {name stem : List Char} : stemOf name = stem ↔ IsStem name stem := by
  constructor
  · intro h
    rw [← h]
    exact isStem_stemOf name
  · exact stemOf_eq

theorem stemOf_ne_nil {name : List Char} (h : name ≠ []) : stemOf name ≠ [] := by
  intro hnil
  cases stemOf_eq_iff.1 hnil with
  | extended nonempty _ => exact nonempty rfl
  | whole _ => exact h rfl

end Name

open Name (IsStem)

/-- A dot, and behind it no other and no slash. -/
def IsExtension (suffix : String) : Prop :=
  ∃ letters : List Char, suffix.toList = '.' :: letters ∧ '.' ∉ letters ∧ '/' ∉ letters

theorem Sibling.isExtension (sibling : Sibling) : IsExtension sibling.extension.text := by
  rcases sibling with _ | _ | ⟨_ | _⟩
  all_goals exact ⟨_, rfl, by decide, by decide⟩

namespace Path
variable {path there changed : Path} {suffix other : String}

theorem fileName_eq {outer : List Name} {name : Name} (h : path.names = outer ++ [name]) : path.fileName = name.text := by
  simp [fileName, name?, h]

theorem fileName_eq_empty_iff : path.fileName = "" ↔ path.names = [] := by
  constructor
  · intro h
    rcases List.eq_nil_or_concat path.names with hnil | ⟨outer, name, hnames⟩
    · exact hnil
    · rw [fileName_eq (hnames.trans (List.concat_eq_append ..))] at h
      exact absurd h name.valid.1
  · intro h
    simp [fileName, name?, h]

theorem withLast_eq_iff {name : Name} :
    path.withLast name = changed ↔ changed.parent = path.parent ∧ changed.fileName = name.text := by
  constructor
  · rintro rfl
    exact ⟨by simp [parent, withLast], fileName_eq rfl⟩
  · rintro ⟨hparent, hfile⟩
    rcases List.eq_nil_or_concat changed.names with hnil | ⟨outer, last, hlast⟩
    · exact absurd (hfile.symm.trans (fileName_eq_empty_iff.2 hnil)) name.valid.1
    · rw [List.concat_eq_append] at hlast
      obtain ⟨anchor, names⟩ := changed
      subst hlast
      rw [fileName_eq rfl] at hfile
      simp only [parent, List.dropLast_concat, Path.mk.injEq] at hparent
      obtain ⟨rfl, rfl⟩ := hparent
      obtain ⟨text, valid⟩ := last
      subst hfile
      rfl

theorem stem_eq_iff {stem : String} : path.stem = stem ↔ IsStem path.fileName.toList stem.toList := by
  rw [← Name.stemOf_eq_iff, Path.stem]
  constructor
  · rintro rfl
    rw [String.toList_ofList]
  · intro h
    rw [h, String.ofList_toList]

theorem stem_ne_nil (h : path.fileName ≠ "") : path.stem.toList ≠ [] := by
  rw [stem, String.toList_ofList]
  exact Name.stemOf_ne_nil fun hnil => h (String.toList_eq_nil_iff.1 hnil)

theorem exists_suffixed (h : path.fileName ≠ "") (hsuffix : IsExtension suffix) :
    ∃ name : Name, path.stem ++ suffix = name.text := by
  obtain ⟨letters, hletters, -, hslash⟩ := hsuffix
  have hlength : 2 ≤ (path.stem ++ suffix).toList.length := by
    have hstem := List.length_pos_iff.2 (stem_ne_nil h)
    rw [String.toList_append, List.length_append, hletters, List.length_cons]
    omega
  refine ⟨⟨path.stem ++ suffix, ?_, ?_, ?_⟩, rfl⟩
  · intro hempty
    simp [hempty] at hlength
  · intro hdot
    simp [hdot] at hlength
  · rw [String.toList_append, List.mem_append, hletters]
    simp [path.slash_notMem_stem, hslash]

theorem withExtension_eq_ok_iff (h : path.fileName ≠ "") (hsuffix : IsExtension suffix) :
    path.withExtension suffix = .ok changed ↔
      changed.parent = path.parent ∧ changed.fileName = path.stem ++ suffix := by
  obtain ⟨name, hname⟩ := exists_suffixed h hsuffix
  have hnames : path.names ≠ [] := fun hnil => h (fileName_eq_empty_iff.2 hnil)
  rw [withExtension_eq_withLast hnames name hname, Except.ok.injEq, withLast_eq_iff, hname]

theorem exists_withExtension (h : path.fileName ≠ "") (hsuffix : IsExtension suffix) :
    ∃ changed, path.withExtension suffix = .ok changed := by
  obtain ⟨name, hname⟩ := exists_suffixed h hsuffix
  exact ⟨_, withExtension_eq_withLast (fun hnil => h (fileName_eq_empty_iff.2 hnil)) name hname⟩

/-- The stem can still be told: the last dot of the new name is that of the extension. -/
theorem stem_of_withExtension (h : path.fileName ≠ "") (hsuffix : IsExtension suffix)
    (hchanged : path.withExtension suffix = .ok changed) : changed.fileName ≠ "" ∧ changed.stem = path.stem := by
  have hfile := ((withExtension_eq_ok_iff h hsuffix).1 hchanged).2
  obtain ⟨letters, hletters, hdot, -⟩ := hsuffix
  have hlist : changed.fileName.toList = path.stem.toList ++ '.' :: letters := by
    rw [hfile, String.toList_append, hletters]
  constructor
  · intro hempty
    simp [hempty] at hlist
  · rw [stem_eq_iff, hlist]
    exact .extended (stem_ne_nil h) hdot

theorem withExtension_withExtension (h : path.fileName ≠ "") (hsuffix : IsExtension suffix) (hother : IsExtension other)
    (hchanged : path.withExtension suffix = .ok changed) : changed.withExtension other = path.withExtension other := by
  obtain ⟨hnamed, hstem⟩ := stem_of_withExtension h hsuffix hchanged
  have hparent := ((withExtension_eq_ok_iff h hsuffix).1 hchanged).1
  obtain ⟨last, hlast⟩ := exists_withExtension h hother
  rw [hlast, withExtension_eq_ok_iff hnamed hother, hparent, hstem]
  exact (withExtension_eq_ok_iff h hother).1 hlast

theorem append_extension_inj {stem stem' : String} (hsuffix : IsExtension suffix) (hother : IsExtension other) :
    stem ++ suffix = stem' ++ other ↔ suffix = other ∧ stem = stem' := by
  obtain ⟨letters, hletters, hdot, -⟩ := hsuffix
  obtain ⟨letters', hletters', hdot', -⟩ := hother
  rw [← String.toList_inj, ← String.toList_inj, ← String.toList_inj, String.toList_append, String.toList_append,
    hletters, hletters']
  constructor
  · intro h
    -- Both texts are cut at the last dot, which gives the same two parts.
    have hsplit := Name.splitLastDot_append hdot stem.toList
    rw [h, Name.splitLastDot_append hdot', Option.some.injEq, Prod.mk.injEq] at hsplit
    exact ⟨by rw [hsplit.2], hsplit.1.symm⟩
  · rintro ⟨hsame, hstem⟩
    rw [hstem, hsame]

theorem withExtension_eq_iff (h : path.fileName ≠ "") (hthere : there.fileName ≠ "") (hsuffix : IsExtension suffix)
    (hother : IsExtension other) :
    path.withExtension suffix = there.withExtension other ↔
      suffix = other ∧ path.parent = there.parent ∧ path.stem = there.stem := by
  obtain ⟨changed, hchanged⟩ := exists_withExtension h hsuffix
  obtain ⟨hparent, hfile⟩ := (withExtension_eq_ok_iff h hsuffix).1 hchanged
  rw [hchanged, eq_comm, withExtension_eq_ok_iff hthere hother, hparent, hfile, append_extension_inj hsuffix hother]
  exact and_left_comm

end Path

namespace Publish
variable {path elfPath own : Path} {legacy : Option Path} {guest : BuiltGuest}

theorem identifiers_of_withExtension (h : path.fileName ≠ "") {suffix : String} (hsuffix : IsExtension suffix)
    (helf : path.withExtension suffix = .ok elfPath) (guest : BuiltGuest) :
    identifiers guest elfPath = identifiers guest path := by
  have hsame : ∀ kept : Sibling, elfPath.withExtension kept.extension.text = path.withExtension kept.extension.text :=
    fun kept => Path.withExtension_withExtension h hsuffix kept.isExtension helf
  have hlegacy : elfPath.withExtension ".iid" = path.withExtension ".iid" := hsame .legacy
  unfold identifiers sibling identifierPaths
  rw [hlegacy, ← Sibling.extension_id, ← Sibling.extension_id, hsame, hsame]

theorem withExtension_beside (h : path.fileName ≠ "") (helf : path.withExtension ".elf" = .ok elfPath) (kept : Sibling) :
    elfPath.withExtension kept.extension.text = .ok (path.beside kept) := by
  rw [Path.withExtension_withExtension h Sibling.elf.isExtension kept.isExtension helf]
  exact Path.withExtension_eq_ok (fun hnil => h (Path.fileName_eq_empty_iff.2 hnil)) kept.extension

theorem reported_withExtension (h : path.fileName ≠ "") (helf : path.withExtension ".elf" = .ok elfPath)
    (guest : BuiltGuest) :
    elfPath.withExtension guest.imageId.context.suffix = .ok (path.beside (.id guest.imageId.context)) ∧
      ∀ written ∈ legacyPath guest path, elfPath.withExtension ".iid" = .ok written := by
  constructor
  · rw [← Sibling.extension_id]
    exact withExtension_beside h helf _
  · intro written hwritten
    unfold legacyPath at hwritten
    split at hwritten
    · obtain rfl := Option.mem_some.1 hwritten
      exact withExtension_beside h helf .legacy
    · cases hwritten

end Publish

/-- A replaced extension leaves the directory and the stem, so what counts is the last replacement, and two paths become
one exactly if they have these in common and are given the same extension. Identifier files have the paths that the
path of the published binary gives. -/
theorem extensions_replace :
    (∀ suffix ∈ [".elf", ".iid", ".uid", ".kid"], IsExtension suffix) ∧
    (∀ (path : Path) (suffix : String), path.fileName ≠ "" → IsExtension suffix → ∃ changed,
      path.withExtension suffix = .ok changed ∧ changed.parent = path.parent ∧
      (∀ stem : String, IsStem path.fileName.toList stem.toList → changed.fileName = stem ++ suffix) ∧
      ∀ other, IsExtension other → changed.withExtension other = path.withExtension other) ∧
    (∀ (path there : Path) (suffix other : String), path.fileName ≠ "" → there.fileName ≠ "" → IsExtension suffix →
      IsExtension other → (path.withExtension suffix = there.withExtension other ↔
        suffix = other ∧ path.parent = there.parent ∧
          ∃ stem, IsStem path.fileName.toList stem ∧ IsStem there.fileName.toList stem)) ∧
    (∀ (path elfPath : Path) (guest : BuiltGuest), path.fileName ≠ "" → path.withExtension ".elf" = .ok elfPath →
      Publish.identifiers guest elfPath = Publish.identifiers guest path ∧
      ∀ host legacy own after, Runs (Publish.identifiers guest path) host (.ok (legacy, own)) after →
        elfPath.withExtension guest.imageId.context.suffix = .ok own ∧
        ∀ written ∈ legacy, elfPath.withExtension ".iid" = .ok written) ∧
    ∀ package guest host entry after, Runs (publishGuest package guest) host (.ok entry) after →
      entry.elfPath.withExtension guest.imageId.context.suffix = .ok entry.imageIdPath ∧
      ∀ written ∈ entry.legacyIdPath, entry.elfPath.withExtension ".iid" = .ok written := by
  refine ⟨?published, ?replaced, ?shared, ?identifiers, ?reported⟩
  case published =>
    intro suffix hsuffix
    simp only [List.mem_cons, List.not_mem_nil, or_false] at hsuffix
    rcases hsuffix with rfl | rfl | rfl | rfl
    · exact Sibling.elf.isExtension
    · exact Sibling.legacy.isExtension
    · exact (Sibling.id .user).isExtension
    · exact (Sibling.id .kernel).isExtension
  case replaced =>
    intro path suffix h hsuffix
    obtain ⟨changed, hchanged⟩ := Path.exists_withExtension h hsuffix
    obtain ⟨hparent, hfile⟩ := (Path.withExtension_eq_ok_iff h hsuffix).1 hchanged
    refine ⟨changed, hchanged, hparent, ?_, fun other hother => Path.withExtension_withExtension h hsuffix hother hchanged⟩
    intro stem hstem
    rw [hfile, Path.stem_eq_iff.2 hstem]
  case shared =>
    intro path there suffix other h hthere hsuffix hother
    have hstems : path.stem = there.stem ↔
        ∃ stem, IsStem path.fileName.toList stem ∧ IsStem there.fileName.toList stem := by
      constructor
      · intro hsame
        exact ⟨_, Path.stem_eq_iff.1 rfl, Path.stem_eq_iff.1 hsame.symm⟩
      · rintro ⟨stem, hpath, hother⟩
        rw [← String.toList_ofList (l := stem)] at hpath hother
        exact (Path.stem_eq_iff.2 hpath).trans (Path.stem_eq_iff.2 hother).symm
    rw [Path.withExtension_eq_iff h hthere hsuffix hother, hstems]
  case identifiers =>
    intro path elfPath guest h helf
    refine ⟨Publish.identifiers_of_withExtension h Sibling.elf.isExtension helf guest, ?_⟩
    intro host legacy own after hruns
    have hnames : path.names ≠ [] := fun hnil => h (Path.fileName_eq_empty_iff.2 hnil)
    obtain ⟨rfl, rfl⟩ := Prod.mk.inj (Publish.identifiers_ok hnames hruns)
    exact Publish.reported_withExtension h helf guest
  case reported =>
    intro package guest host entry after hruns
    obtain ⟨rfl, -⟩ := publishGuest_reports hruns
    have hnames : (Publish.base package.publishDirectory guest).names ≠ [] :=
      Publish.names_base (names_publishDirectory package)
    have hnamed := fun hempty => hnames (Path.fileName_eq_empty_iff.1 hempty)
    exact Publish.reported_withExtension hnamed (Path.withExtension_eq_ok hnames Sibling.elf.extension) guest

theorem extensions_replace_dotted :
    (∃ changed, (Path.ofString "w/a.uid.bin").withExtension ".elf" = .ok changed ∧ changed.fileName = "a.uid.elf" ∧
      changed.withExtension ".kid" = (Path.ofString "w/a.uid.bin").withExtension ".kid") ∧
    (Path.ofString "w/.hidden").withExtension ".uid" ≠ (Path.ofString "w/.bin").withExtension ".uid" ∧
    (Path.ofString "w/name.").withExtension ".iid" = (Path.ofString "w/name").withExtension ".iid" ∧
    (Path.ofString "..").withExtension ".elf" = (Path.ofString "..x").withExtension ".elf" := by
  obtain ⟨hpublished, hreplaced, hshared, -, -⟩ := extensions_replace
  have helf := hpublished ".elf" (by simp)
  have huid := hpublished ".uid" (by simp)
  have hiid := hpublished ".iid" (by simp)
  refine ⟨?_, ?_, ?_, ?_⟩
  · obtain ⟨changed, hchanged, -, hfile, hagain⟩ := hreplaced (Path.ofString "w/a.uid.bin") ".elf" (by decide) helf
    have hstem : IsStem (Path.ofString "w/a.uid.bin").fileName.toList "a.uid".toList :=
      @IsStem.extended "a.uid".toList "bin".toList (by decide) (by decide)
    exact ⟨changed, hchanged, hfile _ hstem, hagain ".kid" (hpublished ".kid" (by simp))⟩
  · rw [Ne, hshared _ _ _ _ (by decide) (by decide) huid huid]
    rintro ⟨-, -, stem, hhidden, hbin⟩
    rw [← Name.stemOf_eq_iff] at hhidden hbin
    exact absurd (hhidden.trans hbin.symm) (by decide)
  · rw [hshared _ _ _ _ (by decide) (by decide) hiid hiid]
    exact ⟨rfl, rfl, "name".toList, @IsStem.extended "name".toList [] (by decide) (by decide), .whole (by decide)⟩
  · rw [hshared _ _ _ _ (by decide) (by decide) helf helf]
    exact ⟨rfl, rfl, ".".toList, @IsStem.extended ".".toList [] (by decide) (by decide),
      @IsStem.extended ".".toList ['x'] (by decide) (by decide)⟩

end GuestForge
