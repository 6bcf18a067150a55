import GuestForge.Proofs.Selecting
import Mathlib.Data.List.Perm.Basic
import Mathlib.Logic.Basic
set_option autoImplicit false

/-!
# Laws of selecting packages

The flags share out the packages of a workspace between the included and the excluded ones. What is included follows
from the sets of patterns alone: patterns to include add up, patterns to exclude take away together, and over the
members the two undo each other. The default selection stays within the default members that are reported, and grows
with them, except that a list which names nobody counts as not reported.
-/
namespace GuestForge
open Selection (baseIds matchesAny)

/-- How the flags decide on a package: by the patterns to include, by membership less the patterns to exclude, or by
the default members. -/
structure Selection.Decides (selection : Selection) (workspace : Workspace) (package : Package) : Prop where
  named : selection.packages ≠ [] → selection.wholeWorkspace = false →
    (package ∈ workspace.included selection ↔
      ∃ pattern ∈ selection.packages, Text.Glob.accepts pattern package.name = true)
  ofMembers : selection.wholeWorkspace = true ∨ selection.exclude ≠ [] ∧ selection.packages = [] →
    (package ∈ workspace.included selection ↔
      package.id ∈ workspace.members ∧ ∀ pattern ∈ selection.exclude, Text.Glob.accepts pattern package.name = false)
  byDefault : selection = {} →
    (package ∈ workspace.included selection ↔ package.id ∈ workspace.defaultMembers.getD workspace.members)

section partition
variable {workspace : Workspace} {selection : Selection} {package other : Package}

theorem mem_excluded : package ∈ workspace.excluded selection ↔
    package ∈ workspace.packages ∧ selection.includes workspace package = false := by
  rw [Workspace.excluded, List.mem_filter, Bool.not_eq_true']

/-- The choice sees the id and the name of a package only. -/
theorem includes_congr (hid : package.id = other.id) (hname : package.name = other.name) :
    selection.includes workspace package = selection.includes workspace other := by
  rw [Selection.includes, Selection.includes, hid, hname]

theorem decides (unique : (workspace.packages.map Package.id).Nodup) (defaults : workspace.defaultMembers ≠ some [])
    (hpackage : package ∈ workspace.packages) : selection.Decides workspace package := by
  have hincluded : package ∈ workspace.included selection ↔ selection.includes workspace package = true := by
    rw [mem_included, and_iff_right hpackage]
  constructor
  case named =>
    intro hpackages hwhole
    rw [hincluded, includes_packages_of_nodup unique (mode_eq_packages.2 ⟨hwhole, hpackages⟩) hpackage,
      matchesAny_eq_true]
  case ofMembers =>
    intro hmembers
    rw [hincluded, includes_members hmembers, matchesAny_eq_false]
  case byDefault =>
    rintro rfl
    rw [hincluded, includes_default, if_neg defaults]

end partition

/-- Included and excluded packages keep the order of the workspace and share out its packages, and packages of one id
and name are on one side. With unique ids, and default members that name somebody if reported, the flags decide on each
package by their rules. The guests are the included packages with the key of guests and a binary. -/
theorem partition_exact (workspace : Workspace) (selection : Selection) :
    (workspace.included selection).Sublist workspace.packages ∧
    (workspace.excluded selection).Sublist workspace.packages ∧
    (workspace.included selection ++ workspace.excluded selection).Perm workspace.packages ∧
    (∀ package ∈ workspace.included selection, ∀ other ∈ workspace.excluded selection,
      package.id = other.id → package.name ≠ other.name) ∧
    ((workspace.packages.map Package.id).Nodup → workspace.defaultMembers ≠ some [] →
      ∀ package ∈ workspace.packages, selection.Decides workspace package) ∧
    workspace.guests selection =
      (workspace.included selection).filter fun package => package.NamesGuests ∧ package.BuildsBinary := by
  refine ⟨List.filter_sublist, List.filter_sublist, List.filter_append_perm _ _, ?_, ?_, ?_⟩
  · intro package hpackage other hother hid hname
    have hincludes := (mem_included.1 hpackage).2
    rw [includes_congr hid hname, (mem_excluded.1 hother).2] at hincludes
    cases hincludes
  · exact fun unique defaults package hpackage => decides unique defaults hpackage
  · exact List.filter_congr fun package _ => isGuest_eq package

namespace Sample

def package (id name : String) : Package :=
  { id := id
    name := name
    version := "0.0.0"
    manifest := Path.ofString "w/Cargo.toml"
    table := some [("risc0", .null)]
    targets := [⟨"b", ["bin"], none⟩] }

def workspace : Workspace :=
  { packages := [package "1" "app", package "2" "guest-x", package "3" "guest-y"]
    members := ["1", "2"]
    defaultMembers := some ["2"]
    targetDirectory := Path.ofString "t"
    root := Path.ofString "w" }

theorem unique : (workspace.packages.map Package.id).Nodup := by decide

theorem defaults : workspace.defaultMembers ≠ some [] := by decide

theorem mem_packages : package "2" "guest-x" ∈ workspace.packages := List.mem_cons_of_mem _ List.mem_cons_self

end Sample

theorem partition_exact_sample :
    (Sample.workspace.packages.map Package.id).Nodup ∧ Sample.workspace.defaultMembers ≠ some [] ∧
    Sample.package "2" "guest-x" ∈ Sample.workspace.included { packages := ["guest-?"] } ∧
    Sample.package "2" "guest-x" ∉ Sample.workspace.included { wholeWorkspace := true, exclude := ["guest-*"] } ∧
    Sample.package "2" "guest-x" ∈ Sample.workspace.included {} := by
  have hdecides : ∀ selection : Selection, selection.Decides Sample.workspace (Sample.package "2" "guest-x") := by
    intro selection
    obtain ⟨-, -, -, -, hdecides, -⟩ := partition_exact Sample.workspace selection
    exact hdecides Sample.unique Sample.defaults _ Sample.mem_packages
  have hnamed := (hdecides { packages := ["guest-?"] }).named nofun rfl
  have hmembers := (hdecides { wholeWorkspace := true, exclude := ["guest-*"] }).ofMembers (.inl rfl)
  refine ⟨Sample.unique, Sample.defaults, hnamed.2 ?_, ?_, ((hdecides _).byDefault rfl).2 ?_⟩
  · exact ⟨"guest-?", List.mem_singleton_self _, by decide +kernel⟩
  · intro hincluded
    have hkept := (hmembers.1 hincluded).2 "guest-*" (List.mem_singleton_self _)
    exact absurd hkept (by decide +kernel)
  · exact List.mem_singleton_self _

structure Selection.SamePatterns (selection other : Selection) : Prop where
  wholeWorkspace : selection.wholeWorkspace = other.wholeWorkspace
  packages : ∀ pattern, pattern ∈ selection.packages ↔ pattern ∈ other.packages
  exclude : ∀ pattern, pattern ∈ selection.exclude ↔ pattern ∈ other.exclude

def Selection.including (selection : Selection) (patterns : List String) : Selection :=
  { selection with packages := patterns }

def Selection.excluding (selection : Selection) (patterns : List String) : Selection :=
  { selection with exclude := patterns }

section algebra
variable {workspace : Workspace} {selection other : Selection} {package : Package} {first second : List String}

theorem matchesAny_congr (h : ∀ pattern, pattern ∈ first ↔ pattern ∈ second) :
    matchesAny first = matchesAny second := by
  funext name
  rw [Bool.eq_iff_iff, matchesAny_eq_true, matchesAny_eq_true]
  exact exists_congr fun pattern => and_congr_left fun _ => h pattern

theorem matchesAny_append (name : String) :
    matchesAny (first ++ second) name = (matchesAny first name || matchesAny second name) := List.any_append

theorem eq_nil_congr {patterns others : List String} (h : ∀ pattern, pattern ∈ patterns ↔ pattern ∈ others) :
    patterns = [] ↔ others = [] := by
  rw [List.eq_nil_iff_forall_not_mem, List.eq_nil_iff_forall_not_mem]
  exact forall_congr' fun pattern => not_congr (h pattern)

theorem Selection.SamePatterns.mode (h : selection.SamePatterns other) : selection.mode = other.mode := by
  simp only [Selection.mode, h.wholeWorkspace, ne_eq, eq_nil_congr h.packages, eq_nil_congr h.exclude]

theorem Selection.SamePatterns.included (h : selection.SamePatterns other) :
    workspace.included selection = workspace.included other := by
  refine List.filter_congr fun package _ => ?_
  rw [Selection.includes, Selection.includes, baseIds, baseIds, h.mode, matchesAny_congr h.packages,
    matchesAny_congr h.exclude]

theorem includes_including_append (hwhole : selection.wholeWorkspace = false) (hfirst : first ≠ [])
    (hsecond : second ≠ []) : (selection.including (first ++ second)).includes workspace package =
      ((selection.including first).includes workspace package ||
        (selection.including second).includes workspace package) := by
  have hmode : ∀ patterns, patterns ≠ [] → (selection.including patterns).mode = .packages :=
    fun patterns hpatterns => mode_eq_packages.2 ⟨hwhole, hpatterns⟩
  rw [Bool.eq_iff_iff, Bool.or_eq_true_iff, includes_packages (hmode _ (List.append_ne_nil_of_left_ne_nil hfirst _)),
    includes_packages (hmode _ hfirst), includes_packages (hmode _ hsecond), ← exists_or]
  refine exists_congr fun named => ?_
  change _ ∧ matchesAny (first ++ second) named.name = true ∧ _ ↔
    _ ∧ matchesAny first named.name = true ∧ _ ∨ _ ∧ matchesAny second named.name = true ∧ _
  rw [matchesAny_append, Bool.or_eq_true_iff]
  tauto

theorem includes_excluding_append (hfirst : first ≠ []) (hsecond : second ≠ []) :
    (selection.excluding (first ++ second)).includes workspace package =
      ((selection.excluding first).includes workspace package &&
        (selection.excluding second).includes workspace package) := by
  by_cases hmembers : selection.wholeWorkspace = true ∨ selection.packages = []
  · have hrule : ∀ patterns, patterns ≠ [] → ((selection.excluding patterns).includes workspace package = true ↔
        package.id ∈ workspace.members ∧ matchesAny patterns package.name = false) :=
      fun patterns hpatterns => includes_members (hmembers.imp_right fun hnone => ⟨hpatterns, hnone⟩)
    rw [Bool.eq_iff_iff, Bool.and_eq_true_iff, hrule _ (List.append_ne_nil_of_left_ne_nil hfirst _), hrule _ hfirst,
      hrule _ hsecond, matchesAny_append, Bool.or_eq_false_iff]
    tauto
  · rw [not_or, Bool.not_eq_true] at hmembers
    have hrule : ∀ patterns, ((selection.excluding patterns).includes workspace package = true ↔
        ∃ named ∈ workspace.packages, matchesAny selection.packages named.name = true ∧ named.id = package.id) :=
      fun patterns => includes_packages (mode_eq_packages.2 hmembers)
    rw [Bool.eq_iff_iff, Bool.and_eq_true_iff, hrule, hrule, hrule, and_self_iff]

theorem includes_wholeWorkspace (h : selection.wholeWorkspace = true) (patterns : List String) :
    (selection.including patterns).includes workspace package = selection.includes workspace package := by
  have hrule : ∀ names, ((selection.including names).includes workspace package = true ↔
      package.id ∈ workspace.members ∧ matchesAny selection.exclude package.name = false) :=
    fun names => includes_members (.inl h)
  rw [Bool.eq_iff_iff, hrule patterns]
  exact (hrule selection.packages).symm

/-- Over the members, including by patterns and excluding by them undo each other. -/
theorem xor_included (unique : (workspace.packages.map Package.id).Nodup) (hpatterns : first ≠ [])
    (hpackage : package ∈ workspace.packages) (hmember : package.id ∈ workspace.members) :
    Xor (package ∈ workspace.included { packages := first }) (package ∈ workspace.included { exclude := first }) := by
  have hnamed : package ∈ workspace.included { packages := first } ↔ matchesAny first package.name = true := by
    rw [mem_included, and_iff_right hpackage,
      includes_packages_of_nodup unique (mode_eq_packages.2 ⟨rfl, hpatterns⟩) hpackage]
  have hkept : package ∈ workspace.included { exclude := first } ↔ ¬ matchesAny first package.name = true := by
    rw [mem_included, and_iff_right hpackage, includes_members (.inr ⟨hpatterns, rfl⟩), and_iff_right hmember,
      Bool.not_eq_true]
  rw [hnamed, hkept, xor_not_right]

end algebra

/-- What is included follows from the sets of patterns. Patterns to include add up, patterns to exclude take away
together, patterns to include do not count beside the workspace flag, and each member is chosen by exactly one of the
two ways to give the same patterns. -/
theorem selection_algebra (workspace : Workspace) :
    (∀ selection other : Selection, selection.SamePatterns other →
      workspace.included selection = workspace.included other) ∧
    (∀ (selection : Selection) (first second : List String),
      selection.wholeWorkspace = false → first ≠ [] → second ≠ [] →
      workspace.included (selection.including (first ++ second)) = workspace.packages.filter fun package =>
        (selection.including first).includes workspace package ||
          (selection.including second).includes workspace package) ∧
    (∀ (selection : Selection) (first second : List String), first ≠ [] → second ≠ [] →
      workspace.included (selection.excluding (first ++ second)) = workspace.packages.filter fun package =>
        (selection.excluding first).includes workspace package &&
          (selection.excluding second).includes workspace package) ∧
    (∀ (selection : Selection) (patterns : List String), selection.wholeWorkspace = true →
      workspace.included (selection.including patterns) = workspace.included selection) ∧
    ((workspace.packages.map Package.id).Nodup → ∀ patterns : List String, patterns ≠ [] →
      ∀ package ∈ workspace.packages, package.id ∈ workspace.members →
        Xor (package ∈ workspace.included { packages := patterns })
          (package ∈ workspace.included { exclude := patterns })) := by
  refine ⟨fun _ _ h => h.included, ?_, ?_, ?_, ?_⟩
  · intro selection first second hwhole hfirst hsecond
    exact List.filter_congr fun package _ => includes_including_append hwhole hfirst hsecond
  · intro selection first second hfirst hsecond
    exact List.filter_congr fun package _ => includes_excluding_append hfirst hsecond
  · intro selection patterns hwhole
    exact List.filter_congr fun package _ => includes_wholeWorkspace hwhole patterns
  · intro unique patterns hpatterns package hpackage hmember
    exact xor_included unique hpatterns hpackage hmember

theorem selection_algebra_sample :
    (Sample.workspace.included { packages := ["guest-*", "app", "guest-*"] }).map Package.id = ["1", "2", "3"] ∧
    Sample.workspace.included { packages := ["guest-*", "app", "guest-*"] } =
      Sample.workspace.included { packages := ["app", "guest-*"] } ∧
    (Sample.workspace.included { exclude := ["app", "*-x"] }).map Package.id = [] ∧
    Sample.workspace.included { packages := ["guest-y"], wholeWorkspace := true } =
      Sample.workspace.included { wholeWorkspace := true } ∧
    Xor (Sample.package "2" "guest-x" ∈ Sample.workspace.included { packages := ["guest-*"] })
      (Sample.package "2" "guest-x" ∈ Sample.workspace.included { exclude := ["guest-*"] }) := by
  obtain ⟨hsame, happend, hless, hwhole, hxor⟩ := selection_algebra Sample.workspace
  have hpatterns : ({ packages := ["guest-*", "app", "guest-*"] } : Selection).SamePatterns
      { packages := ["app", "guest-*"] } := by
    refine ⟨rfl, fun pattern => ?_, fun _ => Iff.rfl⟩
    simp only [List.mem_cons, List.not_mem_nil, or_false]
    tauto
  have hunion := happend {} ["app"] ["guest-*"] rfl nofun nofun
  have hnone := hless {} ["app"] ["*-x"] nofun nofun
  refine ⟨?_, hsame _ _ hpatterns, ?_, hwhole { wholeWorkspace := true } ["guest-y"] rfl, ?_⟩
  · rw [hsame _ _ hpatterns]
    exact (congrArg _ hunion).trans (by decide +kernel)
  · exact (congrArg _ hnone).trans (by decide +kernel)
  · exact hxor Sample.unique ["guest-*"] nofun _ Sample.mem_packages (by decide)

def Workspace.reporting (workspace : Workspace) (ids : List String) : Workspace :=
  { workspace with defaultMembers := some ids }

section defaults
variable {workspace : Workspace} {ids fewer more : List String}

theorem included_reporting : (workspace.reporting ids).included {} =
    workspace.packages.filter fun package => package.id ∈ if ids = [] then workspace.members else ids := by
  refine List.filter_congr fun package _ => ?_
  rw [Bool.eq_iff_iff, includes_default, decide_eq_true_iff]
  simp only [Workspace.reporting, Option.some_inj, Option.getD_some]

theorem included_reporting_bounded_iff :
    (∀ package ∈ (workspace.reporting ids).included {}, package.id ∈ ids) ↔
      ids ≠ [] ∨ ∀ package ∈ workspace.packages, package.id ∉ workspace.members := by
  rw [included_reporting]
  simp only [List.mem_filter, decide_eq_true_iff]
  by_cases hids : ids = []
  · subst hids
    simp
  · simp [hids]

theorem filter_ids_sublist_iff {packages : List Package} :
    (packages.filter fun package => package.id ∈ fewer).Sublist (packages.filter fun package => package.id ∈ more) ↔
      ∀ package ∈ packages, package.id ∈ fewer → package.id ∈ more := by
  constructor
  · intro h package hpackage hfewer
    have hmore := h.subset (List.mem_filter.2 ⟨hpackage, decide_eq_true hfewer⟩)
    exact of_decide_eq_true (List.mem_filter.1 hmore).2
  · intro h
    have hfirst : (packages.filter fun package => package.id ∈ fewer) =
        (packages.filter fun package => package.id ∈ more).filter fun package => package.id ∈ fewer := by
      rw [List.filter_filter]
      refine List.filter_congr fun package hpackage => ?_
      rw [Bool.eq_iff_iff, Bool.and_eq_true_iff, decide_eq_true_iff, decide_eq_true_iff]
      exact (and_iff_left_of_imp (h package hpackage)).symm
    rw [hfirst]
    exact List.filter_sublist

theorem included_reporting_sublist_iff (h : fewer ⊆ more) :
    ((workspace.reporting fewer).included {}).Sublist ((workspace.reporting more).included {}) ↔
      fewer ≠ [] ∨ more = [] ∨ ∀ package ∈ workspace.packages, package.id ∈ workspace.members → package.id ∈ more := by
  rw [included_reporting, included_reporting, filter_ids_sublist_iff]
  by_cases hfewer : fewer = []
  · by_cases hmore : more = []
    · simp [hfewer, hmore]
    · simp [hfewer, hmore]
  · have hmore : more ≠ [] := by
      rintro rfl
      exact hfewer (List.eq_nil_of_subset_nil h)
    simp only [hfewer, hmore, ne_eq, not_false_eq_true, true_or, iff_true, if_false]
    exact fun package _ hid => h hid

end defaults

/-- Without flags the reported default members decide, but for a list that names nobody, which leaves it to the members.
The packages stay within the reported list exactly when that names somebody or no package is a member. Between a list
and a longer one they grow exactly when the shorter one names somebody, or the members bring in no more than the longer
one. -/
theorem default_selection_bounded_iff (workspace : Workspace) {fewer more : List String} (h : fewer ⊆ more) :
    (∀ ids, (workspace.reporting ids).included {} =
      workspace.packages.filter fun package => package.id ∈ if ids = [] then workspace.members else ids) ∧
    ((∀ package ∈ (workspace.reporting fewer).included {}, package.id ∈ fewer) ↔
      fewer ≠ [] ∨ ∀ package ∈ workspace.packages, package.id ∉ workspace.members) ∧
    (((workspace.reporting fewer).included {}).Sublist ((workspace.reporting more).included {}) ↔
      fewer ≠ [] ∨ more = [] ∨ ∀ package ∈ workspace.packages, package.id ∈ workspace.members → package.id ∈ more) ∧
    (fewer ≠ [] → ((workspace.reporting fewer).guests {}).Sublist ((workspace.reporting more).guests {})) := by
  refine ⟨fun _ => included_reporting, included_reporting_bounded_iff, included_reporting_sublist_iff h, ?_⟩
  intro hfewer
  exact ((included_reporting_sublist_iff h).2 (.inl hfewer)).filter _

theorem default_selection_bounded_sample :
    ["2"] ⊆ ["3", "2"] ∧ (∀ package ∈ (Sample.workspace.reporting ["2"]).included {}, package.id ∈ ["2"]) ∧
    ((Sample.workspace.reporting ["2"]).included {}).Sublist ((Sample.workspace.reporting ["3", "2"]).included {}) ∧
    ((Sample.workspace.reporting ["3", "2"]).included {}).map Package.id = ["2", "3"] := by
  have hsubset : ["2"] ⊆ ["3", "2"] := by decide
  obtain ⟨hincluded, hbounded, hgrows, -⟩ := default_selection_bounded_iff Sample.workspace hsubset
  exact ⟨hsubset, hbounded.2 (.inl nofun), hgrows.2 (.inl nofun), (congrArg _ (hincluded _)).trans (by decide)⟩

/-- Where the reported list is empty the members are chosen, and more of them than with a default member. -/
theorem empty_defaults_choose_members :
    ([] : List String) ⊆ ["2"] ∧
    ((Sample.workspace.reporting []).included {}).map Package.id = ["1", "2"] ∧
    ((Sample.workspace.reporting ["2"]).included {}).map Package.id = ["2"] ∧
    (∃ package ∈ (Sample.workspace.reporting []).included {}, package.id ∉ ([] : List String)) ∧
    ¬ ((Sample.workspace.reporting []).included {}).Sublist ((Sample.workspace.reporting ["2"]).included {}) := by
  refine ⟨List.nil_subset _, by decide, by decide, ⟨Sample.package "1" "app", ?_, nofun⟩, ?_⟩
  · exact List.mem_cons_self
  · intro hsublist
    exact absurd hsublist.length_le (by decide)

end GuestForge
