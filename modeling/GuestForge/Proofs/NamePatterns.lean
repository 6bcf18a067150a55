import GuestForge.Proofs.PatternLanguage
import GuestForge.Proofs.SelectionRules
set_option autoImplicit false

/-!
# Selecting by name

Patterns select packages by whole names: a name is matched that is in the language of one of the patterns. A pattern
without special characters is a name, and selects what has that name; a star behind a pattern leaves the rest of a name
open, whatever stands before it.
-/
namespace GuestForge

namespace Text.Glob
variable {takes : Bool → List Item → Char → Prop} {pattern text body rest name : List Char} {mark : Bool}

def IsPlain (pattern : List Char) : Prop := '*' ∉ pattern ∧ '?' ∉ pattern ∧ '[' ∉ pattern

instance (pattern : List Char) : Decidable (IsPlain pattern) := inferInstanceAs (Decidable (_ ∧ _))

theorem inLanguage_plain (h : IsPlain pattern) : InLanguage takes pattern name ↔ name = pattern := by
  induction pattern generalizing name with
  | nil => exact inLanguage_nil
  | cons c rest ih =>
    obtain ⟨hstar, hquestion, hbracket⟩ := h
    simp only [List.mem_cons, not_or] at hstar hquestion hbracket
    have hrest : IsPlain rest := ⟨hstar.2, hquestion.2, hbracket.2⟩
    rw [inLanguage_literal (Ne.symm hstar.1) (Ne.symm hquestion.1) fun hc => absurd hc.symm hbracket.1]
    simp [ih hrest]

theorem Closes.append (h : Closes text mark body rest) (more : List Char) :
    Closes (text ++ more) mark body (rest ++ more) := by
  cases h with
  | @marked first others _ opened =>
    have hcloses := @Closes.marked first others (rest ++ more) opened
    simpa using hcloses
  | @unmarked first others _ plain opened =>
    have hcloses := @Closes.unmarked first others (rest ++ more) plain opened
    simpa using hcloses

theorem exists_of_append_star {front : List Char} (h : text ++ ['*'] = front ++ ']' :: rest) :
    ∃ more, rest = more ++ ['*'] ∧ text = front ++ ']' :: more := by
  rcases List.eq_nil_or_concat rest with rfl | ⟨more, last, rfl⟩
  · have hlast := (List.append_inj' h rfl).2
    simp at hlast
  · rw [List.concat_eq_append] at h ⊢
    rw [← List.cons_append, ← List.append_assoc] at h
    obtain ⟨htext, hlast⟩ := List.append_inj' h rfl
    exact ⟨more, by rw [hlast], htext⟩

theorem Closes.of_append_star (h : Closes (text ++ ['*']) mark body rest) :
    ∃ more, rest = more ++ ['*'] ∧ Closes text mark body more := by
  generalize hwhole : text ++ ['*'] = whole at h
  cases h with
  | @marked first others _ opened =>
    have hfront : text ++ ['*'] = ('!' :: first :: others) ++ ']' :: rest := hwhole
    obtain ⟨more, rfl, rfl⟩ := exists_of_append_star hfront
    exact ⟨more, rfl, .marked opened⟩
  | @unmarked first others _ plain opened =>
    have hfront : text ++ ['*'] = (first :: others) ++ ']' :: rest := hwhole
    obtain ⟨more, rfl, rfl⟩ := exists_of_append_star hfront
    exact ⟨more, rfl, .unmarked plain opened⟩

theorem InLanguage.append_star (h : InLanguage takes pattern name) (back : List Char) :
    InLanguage takes (pattern ++ ['*']) (name ++ back) := by
  induction h with
  | nil =>
    have hstar : InLanguage takes ['*'] (back ++ []) := .anyRun back .nil
    rwa [List.append_nil] at hstar
  | anyRun run _ ih =>
    rw [List.append_assoc]
    exact .anyRun run ih
  | anyChar c _ ih => exact .anyChar c ih
  | oneOf closes lists taken _ ih => exact .oneOf (closes.append ['*']) lists taken ih
  | literal star question bracket _ ih =>
    refine .literal star question ?_ ih
    intro hc mark body rest hcloses
    obtain ⟨more, -, hmore⟩ := hcloses.of_append_star
    exact bracket hc mark body more hmore

theorem exists_of_inLanguage_star (h : InLanguage takes (pattern ++ ['*']) name) :
    ∃ front back, name = front ++ back ∧ InLanguage takes pattern front := by
  generalize hwhole : pattern ++ ['*'] = whole at h
  induction h generalizing pattern with
  | nil => simp at hwhole
  | @anyRun others name run next ih =>
    cases pattern with
    | nil =>
      -- This is the star at the end, and what it takes is all that is left.
      obtain ⟨-, rfl⟩ := List.cons.inj hwhole
      exact ⟨[], _, rfl, .nil⟩
    | cons c pattern =>
      obtain ⟨rfl, htail⟩ := List.cons.inj hwhole
      obtain ⟨front, back, rfl, hfront⟩ := ih htail
      exact ⟨run ++ front, back, (List.append_assoc ..).symm, .anyRun run hfront⟩
  | anyChar c _ ih =>
    cases pattern with
    | nil => simp at hwhole
    | cons d pattern =>
      obtain ⟨rfl, htail⟩ := List.cons.inj hwhole
      obtain ⟨front, back, rfl, hfront⟩ := ih htail
      exact ⟨c :: front, back, rfl, .anyChar c hfront⟩
  | @oneOf text _ _ _ _ _ c closes lists taken _ ih =>
    cases pattern with
    | nil => simp at hwhole
    | cons d pattern =>
      obtain ⟨rfl, rfl⟩ := List.cons.inj hwhole
      obtain ⟨more, rfl, hmore⟩ := closes.of_append_star
      obtain ⟨front, back, rfl, hfront⟩ := ih rfl
      exact ⟨c :: front, back, rfl, .oneOf hmore lists taken hfront⟩
  | @literal c _ _ star question bracket _ ih =>
    cases pattern with
    | nil => exact absurd (List.cons.inj hwhole).1.symm star
    | cons d pattern =>
      obtain ⟨rfl, rfl⟩ := List.cons.inj hwhole
      obtain ⟨front, back, rfl, hfront⟩ := ih rfl
      refine ⟨d :: front, back, rfl, .literal star question ?_ hfront⟩
      intro hd mark body rest hcloses
      exact bracket hd mark body _ (hcloses.append ['*'])

theorem inLanguage_star_iff : InLanguage takes (pattern ++ ['*']) name ↔
    ∃ front back, name = front ++ back ∧ InLanguage takes pattern front := by
  constructor
  · exact exists_of_inLanguage_star
  · rintro ⟨front, back, rfl, hfront⟩
    exact hfront.append_star back

end Text.Glob

open Selection (matchesAny)
open Text.Glob

theorem matchesAny_iff {patterns : List String} {name : String} :
    matchesAny patterns name = true ↔ ∃ pattern ∈ patterns, InLanguage Takes pattern.toList name.toList := by
  rw [matchesAny_eq_true]
  simp only [accepts_iff]

theorem matchesAny_singleton {pattern name : String} :
    matchesAny [pattern] name = true ↔ InLanguage Takes pattern.toList name.toList := by
  simp [matchesAny_iff]

theorem matchesAny_plain {pattern : String} (h : IsPlain pattern.toList) (name : String) :
    matchesAny [pattern] name = true ↔ name = pattern := by
  rw [matchesAny_singleton, inLanguage_plain h, String.toList_inj]

theorem matchesAny_star (pattern name : String) :
    matchesAny [pattern ++ "*"] name = true ↔ ∃ front back, name = front ++ back ∧ matchesAny [pattern] front = true := by
  rw [matchesAny_singleton, String.toList_append]
  refine inLanguage_star_iff.trans ?_
  constructor
  · rintro ⟨front, back, hname, hfront⟩
    refine ⟨String.ofList front, String.ofList back, ?_, ?_⟩
    · rw [← String.ofList_append, ← hname, String.ofList_toList]
    · rwa [matchesAny_singleton, String.toList_ofList]
  · rintro ⟨front, back, rfl, hfront⟩
    exact ⟨front.toList, back.toList, String.toList_append .., matchesAny_singleton.1 hfront⟩

/-- A name is matched that is in the language of a pattern. In that language a set takes what is written there, unless
spans that run backwards uncover a mark in it. So a pattern without special characters is matched by that name alone:
what is excluded with it has that name, and what is included has the id of a package of that name. A star behind a
pattern matches what the pattern matches, and anything behind that. -/
theorem patterns_select :
    (∀ (patterns : List String) (name : String),
      matchesAny patterns name = true ↔ ∃ pattern ∈ patterns, InLanguage Takes pattern.toList name.toList) ∧
    (∀ (mark : Bool) (items : List Item) (c : Char), mark = true ∨ (∀ others, ¬ Uncovers items others) →
      (Takes mark items c ↔ AsWritten mark items c)) ∧
    (∀ pattern : String, IsPlain pattern.toList →
      (∀ name, matchesAny [pattern] name = true ↔ name = pattern) ∧
      ∀ (workspace : Workspace), ∀ package ∈ workspace.packages,
        (package ∈ workspace.included { packages := [pattern] } ↔
          ∃ named ∈ workspace.packages, named.name = pattern ∧ named.id = package.id) ∧
        ((workspace.packages.map Package.id).Nodup →
          (package ∈ workspace.included { packages := [pattern] } ↔ package.name = pattern)) ∧
        ∀ whole, package ∈ workspace.included { wholeWorkspace := whole, exclude := [pattern] } ↔
          package.id ∈ workspace.members ∧ package.name ≠ pattern) ∧
    ∀ pattern name : String, matchesAny [pattern ++ "*"] name = true ↔
      ∃ front back, name = front ++ back ∧ matchesAny [pattern] front = true := by
  refine ⟨fun _ _ => matchesAny_iff, ?written, ?plain, matchesAny_star⟩
  case written =>
    rintro mark items c (rfl | hcovered)
    · simp [Takes]
    · simp [Takes, hcovered]
  case plain =>
    intro pattern hplain
    refine ⟨matchesAny_plain hplain, ?_⟩
    intro workspace package hpackage
    have hmode : ({ packages := [pattern] } : Selection).mode = .packages := rfl
    refine ⟨?_, ?_, ?_⟩
    · rw [mem_included, and_iff_right hpackage, includes_packages hmode]
      simp only [matchesAny_plain hplain]
    · intro unique
      rw [mem_included, and_iff_right hpackage, includes_packages_of_nodup unique hmode hpackage]
      exact matchesAny_plain hplain _
    · intro whole
      have hmembers : whole = true ∨ ([pattern] : List String) ≠ [] ∧ ([] : List String) = [] :=
        .inr ⟨List.cons_ne_nil _ _, rfl⟩
      rw [mem_included, and_iff_right hpackage, includes_members hmembers, ← Bool.not_eq_true, matchesAny_plain hplain]

theorem patterns_select_sample :
    IsPlain "guest-x".toList ∧ (Sample.workspace.packages.map Package.id).Nodup ∧
    Sample.package "2" "guest-x" ∈ Sample.workspace.included { packages := ["guest-x"] } ∧
    Sample.package "2" "guest-x" ∉ Sample.workspace.included { exclude := ["guest-x"] } ∧
    matchesAny ["guest-x" ++ "*"] ("guest-x" ++ "\n[a") = true ∧ matchesAny ["[]a-c]"] "]" = true := by
  obtain ⟨hmatches, hwritten, hplain, hstar⟩ := patterns_select
  have hname : IsPlain "guest-x".toList := by decide
  obtain ⟨hsame, hselects⟩ := hplain "guest-x" hname
  obtain ⟨-, hpackages, hexclude⟩ := hselects Sample.workspace _ Sample.mem_packages
  refine ⟨hname, Sample.unique, (hpackages Sample.unique).2 rfl, fun h => ((hexclude false).1 h).2 rfl,
    (hstar _ _).2 ⟨_, _, rfl, (hsame _).2 rfl⟩, ?_⟩
  have hcloses : Closes "]a-c]".toList false "]a-c".toList [] :=
    @Closes.unmarked ']' "a-c".toList [] (by decide) (by decide)
  have hlists : Lists "]a-c".toList [.single ']', .span 'a' 'c'] := readItems_eq_iff.1 rfl
  have hcovered : ∀ others, ¬ Uncovers [.single ']', .span 'a' 'c'] others :=
    fun others hothers => Bool.false_ne_true (congrArg CharSet.negated hothers.settle)
  have htaken : Takes false [.single ']', .span 'a' 'c'] ']' := by
    rw [hwritten _ _ _ (.inr hcovered)]
    exact iff_of_true ⟨_, List.mem_cons_self, rfl⟩ rfl
  exact (hmatches _ _).2 ⟨_, List.mem_singleton_self _, .oneOf hcloses hlists htaken .nil⟩

def Sample.shared : Workspace := { Sample.workspace with packages := [Sample.package "1" "app", Sample.package "1" "lib"] }

/-- The span from b to a runs backwards, so the mark behind it negates the set, which takes what is not listed. And where
ids are shared, a package is included for the name of another. -/
theorem uncovered_mark_negates :
    matchesAny ["[b-a!x]"] "a" = true ∧ ¬ InLanguage AsWritten "[b-a!x]".toList "a".toList ∧
    IsPlain "app".toList ∧ Sample.package "1" "lib" ∈ Sample.shared.included { packages := ["app"] } := by
  refine ⟨by decide +kernel, ?_, by decide, ?_⟩
  · have hcloses : Closes "b-a!x]".toList false "b-a!x".toList [] :=
      @Closes.unmarked 'b' "-a!x".toList [] (by decide) (by decide)
    have hlists : Lists "b-a!x".toList [.span 'b' 'a', .single '!', .single 'x'] := readItems_eq_iff.1 rfl
    intro h
    obtain ⟨c, rest, hname, htaken, -⟩ := (inLanguage_oneOf hcloses hlists).1 h
    obtain ⟨rfl, -⟩ := List.cons.inj hname
    obtain ⟨item, hitem, hc⟩ := htaken.2 rfl
    revert item
    decide
  · exact mem_included.2 ⟨List.mem_cons_of_mem _ List.mem_cons_self, by decide +kernel⟩

end GuestForge
