import GuestForge.Workspace.Selection
import Mathlib.Data.List.Basic
import Mathlib.Data.List.Nodup
set_option autoImplicit false

/-!
# What the selection flags choose

Patterns to include are looked up among the names of all packages, and what is chosen then are ids; every other way of
selecting starts from a list of ids and may drop names from it. With unique ids the flags come to one of three rules,
each about the name and the id of the package alone. Included and excluded packages share out the occurrences in the
workspace between them, in its order.
-/
namespace GuestForge
open Selection (baseIds matchesAny)

/-- The author's table of a package has the key of guests, with whatever value. -/
def Package.NamesGuests (package : Package) : Prop := ∃ table ∈ package.table, "risc0" ∈ table.map Prod.fst

def Package.BuildsBinary (package : Package) : Prop := ∃ target ∈ package.targets, "bin" ∈ target.kinds

theorem lookup_isSome {members : Json.Members} {key : String} :
    (Json.lookup members key).isSome = true ↔ key ∈ members.map Prod.fst := by
  rw [Json.lookup, Option.isSome_map, List.find?_isSome]
  simp

theorem hasGuestTable_iff (package : Package) : package.hasGuestTable = true ↔ package.NamesGuests := by
  unfold Package.hasGuestTable Package.NamesGuests
  cases package.table with
  | none => simp
  | some table => simp only [lookup_isSome, Option.mem_some_iff, exists_eq_left']

theorem hasBinary_iff (package : Package) : package.hasBinary = true ↔ package.BuildsBinary := by
  simp [Package.hasBinary, Package.BuildsBinary, Target.isBinary]

instance (package : Package) : Decidable package.NamesGuests := decidable_of_iff _ (hasGuestTable_iff package)

instance (package : Package) : Decidable package.BuildsBinary := decidable_of_iff _ (hasBinary_iff package)

theorem isGuest_eq (package : Package) : package.isGuest = decide (package.NamesGuests ∧ package.BuildsBinary) := by
  rw [Bool.eq_iff_iff, decide_eq_true_iff, Package.isGuest, Bool.and_eq_true_iff, hasGuestTable_iff, hasBinary_iff]

section modes
variable {selection : Selection}

theorem mode_eq_packages : selection.mode = .packages ↔ selection.wholeWorkspace = false ∧ selection.packages ≠ [] := by
  unfold Selection.mode
  grind

theorem mode_eq_optOut : selection.mode = .optOut ↔
    selection.exclude ≠ [] ∧ (selection.wholeWorkspace = true ∨ selection.packages = []) := by
  unfold Selection.mode
  grind

end modes

theorem matchesAny_eq_true {patterns : List String} {name : String} :
    matchesAny patterns name = true ↔ ∃ pattern ∈ patterns, Text.Glob.accepts pattern name = true := List.any_eq_true

theorem matchesAny_eq_false {patterns : List String} {name : String} :
    matchesAny patterns name = false ↔ ∀ pattern ∈ patterns, Text.Glob.accepts pattern name = false := by
  simp [Selection.matchesAny]

section inclusion
variable {workspace : Workspace} {selection : Selection} {package : Package}

theorem mem_included : package ∈ workspace.included selection ↔
    package ∈ workspace.packages ∧ selection.includes workspace package = true := List.mem_filter

theorem mem_guests : package ∈ workspace.guests selection ↔
    package ∈ workspace.packages ∧ selection.includes workspace package = true ∧ package.isGuest = true := by
  rw [Workspace.guests, List.mem_filter, mem_included, and_assoc]

theorem includes_iff : selection.includes workspace package = true ↔
    package.id ∈ baseIds workspace selection ∧
      (selection.mode = .optOut → matchesAny selection.exclude package.name = false) := by
  rw [Selection.includes, Bool.and_eq_true_iff, List.contains_iff_mem]
  cases hmode : selection.mode <;> simp

theorem mem_baseIds (h : selection.includes workspace package = true) : package.id ∈ baseIds workspace selection :=
  (includes_iff.1 h).1

/-- Patterns choose the ids of the packages whose names they match. -/
theorem includes_packages (h : selection.mode = .packages) : selection.includes workspace package = true ↔
    ∃ named ∈ workspace.packages, matchesAny selection.packages named.name = true ∧ named.id = package.id := by
  have hids : baseIds workspace selection =
      (workspace.packages.filter fun package => matchesAny selection.packages package.name).map Package.id := by
    rw [baseIds, h]
  rw [includes_iff, h, hids]
  simp [and_assoc]

theorem includes_packages_of_nodup (unique : (workspace.packages.map Package.id).Nodup)
    (h : selection.mode = .packages) (hpackage : package ∈ workspace.packages) :
    selection.includes workspace package = true ↔ matchesAny selection.packages package.name = true := by
  rw [includes_packages h]
  constructor
  · rintro ⟨named, hnamed, hmatches, hid⟩
    obtain rfl : named = package := List.inj_on_of_nodup_map unique hnamed hpackage hid
    exact hmatches
  · intro hmatches
    exact ⟨package, hpackage, hmatches, rfl⟩

theorem includes_members
    (h : selection.wholeWorkspace = true ∨ selection.exclude ≠ [] ∧ selection.packages = []) :
    selection.includes workspace package = true ↔
      package.id ∈ workspace.members ∧ matchesAny selection.exclude package.name = false := by
  by_cases hexclude : selection.exclude = []
  · have hmode : selection.mode = .all := by
      unfold Selection.mode
      grind
    rw [includes_iff, hmode, hexclude]
    simp [baseIds, hmode, matchesAny]
  · have hmode : selection.mode = .optOut := mode_eq_optOut.2 ⟨hexclude, h.imp_right And.right⟩
    rw [includes_iff, hmode]
    simp [baseIds, hmode]

theorem includes_default : ({} : Selection).includes workspace package = true ↔
    package.id ∈ if workspace.defaultMembers = some [] then workspace.members
      else workspace.defaultMembers.getD workspace.members := by
  have hmode : ({} : Selection).mode = .default := rfl
  rw [includes_iff, hmode, baseIds, hmode]
  cases workspace.defaultMembers with
  | none => simp
  | some ids => cases ids <;> simp

end inclusion

end GuestForge
