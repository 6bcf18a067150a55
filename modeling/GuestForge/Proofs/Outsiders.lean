import GuestForge.Proofs.FirstFailure
import GuestForge.Proofs.Selecting
set_option autoImplicit false

/-!
# Packages outside the workspace

A resolved workspace lists the dependencies too, which are no members. All ways to select packages start from the
members, except for the patterns to include: these range over all packages. Where they match no guest from outside, a
run asks for members only, and the publish directories outside stay as they are.
-/
namespace GuestForge
open Selection (baseIds matchesAny)

def Workspace.DefaultsAreMembers (workspace : Workspace) : Prop :=
  ∀ ids, workspace.defaultMembers = some ids → ∀ id ∈ ids, id ∈ workspace.members

def Workspace.IsMember (workspace : Workspace) (package : Package) : Prop := package.id ∈ workspace.members

instance (workspace : Workspace) (package : Package) : Decidable (workspace.IsMember package) :=
  inferInstanceAs (Decidable (_ ∈ _))

/-- If there are patterns to include, they match no guest from outside, by its own name or by that of another package
with its id. -/
def Selection.MatchesMembers (workspace : Workspace) (selection : Selection) : Prop :=
  selection.mode = .packages → ∀ package ∈ workspace.packages, package.isGuest = true →
    ∀ named ∈ workspace.packages, named.id = package.id → matchesAny selection.packages named.name = true →
      workspace.IsMember package

instance (workspace : Workspace) (selection : Selection) : Decidable (selection.MatchesMembers workspace) :=
  inferInstanceAs (Decidable (_ → ∀ package ∈ _, _ → ∀ named ∈ _, _ → _ → _))

section selecting
variable {workspace : Workspace} {selection : Selection}

theorem baseIds_subset (defaults : workspace.DefaultsAreMembers) (h : selection.mode ≠ .packages) :
    baseIds workspace selection ⊆ workspace.members := by
  unfold baseIds
  cases hmode : selection.mode with
  | packages => exact absurd hmode h
  | all => exact List.Subset.refl _
  | optOut => exact List.Subset.refl _
  | default =>
    cases hdefaults : workspace.defaultMembers with
    | none => exact List.Subset.refl _
    | some ids =>
      cases ids with
      | nil => exact List.Subset.refl _
      | cons id rest => exact fun other hother => defaults _ hdefaults other hother

theorem guests_members_iff (defaults : workspace.DefaultsAreMembers) :
    (∀ package ∈ workspace.guests selection, workspace.IsMember package) ↔ selection.MatchesMembers workspace := by
  constructor
  · intro h hmode package hpackage hguest named hnamed hid hmatches
    exact h package (mem_guests.2 ⟨hpackage, (includes_packages hmode).2 ⟨named, hnamed, hmatches, hid⟩, hguest⟩)
  · intro h package hselected
    obtain ⟨hpackage, hincludes, hguest⟩ := mem_guests.1 hselected
    by_cases hmode : selection.mode = .packages
    · obtain ⟨named, hnamed, hmatches, hid⟩ := (includes_packages hmode).1 hincludes
      exact h hmode package hpackage hguest named hnamed hid hmatches
    · exact baseIds_subset defaults hmode (mem_baseIds hincludes)

end selecting

theorem Course.requests {plan : Plan} {packages : List Package} {outcome : Except Fault (List Batch)}
    {events : List Event} (h : Course plan packages outcome events) :
    ∃ asked, asked <+: packages ∧ events.filterMap Event.request? = asked.map plan.request ∧
      ∀ batches, outcome = .ok batches → asked = packages := by
  cases outcome with
  | ok batches =>
    obtain ⟨rfl, rfl⟩ := h
    exact ⟨_, List.prefix_rfl, requests_batches batches, fun _ _ => rfl⟩
  | error fault =>
    obtain ⟨batches, package, rest, last, rfl, hfails, rfl⟩ := h
    refine ⟨batches.map Batch.package ++ [package], ⟨rest, by rw [List.append_assoc]; rfl⟩, ?_, ?_⟩
    · rw [List.filterMap_append, requests_batches, hfails.requests, List.map_append]
      rfl
    · intro batches hbatches
      cases hbatches

/-- A run over a workspace that keeps to the members: it asks for no other package, and it changes nothing in the
publish directory of a package from outside, if no member publishes there and the builds keep out of it. -/
structure KeepsToMembers (workspace : Workspace) (builder : Builder) (asked : List Package) (before after : Session) :
    Prop where
  members : ∀ package ∈ asked, workspace.IsMember package
  spares : before.host.tree.LinkFree →
    (∀ package ∈ workspace.packages, workspace.IsMember package → package.manifest.Plain) →
    ∀ outsider ∈ workspace.packages, ¬ workspace.IsMember outsider →
    (∀ package ∈ workspace.packages, workspace.IsMember package →
      ¬ outsider.publishDirectory.location <+: package.publishDirectory.location) →
    (Spares builder fun location => outsider.publishDirectory.location <+: location) →
    ∀ location, outsider.publishDirectory.location <+: location →
      after.host.tree.get? location = before.host.tree.get? location

section bake
variable {workspace : Workspace} {builder : Builder} {configuration : Configuration} {selection : Selection}
  {root : Option Path} {before after : Session}

theorem keepsToMembers_of_course {plan : Plan} {outcome : Except Fault (List Batch)} {events : List Event}
    {asked : List Package} (hmembers : ∀ package ∈ workspace.guests selection, workspace.IsMember package)
    (hasked : asked <+: workspace.guests selection) (hcourse : Course plan (workspace.guests selection) outcome events)
    (h : Trace before events after) : KeepsToMembers workspace plan.builder asked before after := by
  refine ⟨fun package hpackage => hmembers package (hasked.subset hpackage), ?_⟩
  intro free plain outsider _ _ elsewhere spares location hlocation
  refine h.spares_elsewhere (fun event => hcourse.makes) free ?_ ?_ spares hlocation
  · intro package hpackage
    exact plain package (mem_guests.1 hpackage).1 (hmembers package hpackage)
  · intro package hpackage
    exact elsewhere package (mem_guests.1 hpackage).1 (hmembers package hpackage)

/-- The selected guests are members exactly when patterns to include, if any, match no guest from outside. Then every
run keeps to the members; else a run that goes through asks for a package from outside. -/
theorem bake_keeps_to_members_iff (defaults : workspace.DefaultsAreMembers) {answer : Except Fault BakeResult}
    (h : Runs (bake workspace builder configuration selection root) before answer after) :
    ((∀ package ∈ workspace.guests selection, workspace.IsMember package) ↔ selection.MatchesMembers workspace) ∧
    ∃ asked, asked <+: workspace.guests selection ∧
      after.requests = before.requests ++
        asked.map (workspace.plan builder configuration root before.host).request ∧
      (selection.MatchesMembers workspace → KeepsToMembers workspace builder asked before after) ∧
      ∀ result, answer = .ok result → asked = workspace.guests selection ∧
        (¬ selection.MatchesMembers workspace → ∃ package ∈ asked, ¬ workspace.IsMember package) := by
  obtain ⟨outcome, events, hcourse, rfl, htrace⟩ := runs_bake.1 h
  obtain ⟨asked, hasked, hrequests, hall⟩ := hcourse.requests
  have hmembers : (∀ package ∈ workspace.guests selection, workspace.IsMember package) ↔
      selection.MatchesMembers workspace := guests_members_iff defaults
  refine ⟨hmembers, asked, hasked, hrequests ▸ htrace.requests, ?_, ?_⟩
  · exact fun hmatches => keepsToMembers_of_course (hmembers.2 hmatches) hasked hcourse htrace
  · intro result hresult
    cases outcome with
    | error fault => cases hresult
    | ok batches =>
      obtain rfl := hall batches rfl
      refine ⟨rfl, fun hmatches => ?_⟩
      by_contra hnone
      exact hmatches (hmembers.1 fun package hpackage => by_contra fun hout => hnone ⟨package, hpackage, hout⟩)

def Small.outsider : Package :=
  { Small.package with
    id := "d"
    name := "d"
    manifest := ⟨.root, [Small.name "r" (by decide), Small.manifestName]⟩ }

def Small.resolved : Workspace :=
  { Small.workspace with
    packages := [Small.package, Small.outsider]
    defaultMembers := some ["p"] }

theorem Small.defaultsAreMembers : Small.resolved.DefaultsAreMembers := by
  rintro ids hids id hid
  cases hids
  exact hid

theorem Small.eq_member {other : Package} (h : other ∈ Small.resolved.packages) (member : Small.resolved.IsMember other) :
    other = Small.package := by
  rcases List.mem_cons.1 h with rfl | h
  · rfl
  · rw [List.mem_singleton.1 h] at member
    exact absurd member (by decide)

theorem bake_keeps_to_members_small : ∃ after asked,
    Runs (bake Small.resolved Small.builder {} { packages := ["p*"] } none) ⟨Small.host, []⟩ (.ok Small.result) after ∧
    (∀ package ∈ Small.resolved.guests { packages := ["p*"] }, Small.resolved.IsMember package) ∧
    asked.map Package.id = ["p"] ∧ KeepsToMembers Small.resolved Small.builder asked ⟨Small.host, []⟩ after ∧
    after.host.tree.get? ["r", "elfs"] = none := by
  have hruns : Runs (bake Small.resolved Small.builder {} { packages := ["p*"] } none) ⟨Small.host, []⟩
      (.ok Small.result) _ := runs_of_toOption (by decide +kernel)
  have hmatches : ({ packages := ["p*"] } : Selection).MatchesMembers Small.resolved := by decide +kernel
  obtain ⟨hiff, asked, -, -, hkeeps, hok⟩ := bake_keeps_to_members_iff Small.defaultsAreMembers hruns
  obtain ⟨hasked, -⟩ := hok _ rfl
  have hspares : Spares Small.builder fun location => Small.outsider.publishDirectory.location <+: location := by
    refine fun _ _ _ => Recipe.keeps_follow fun step hstep current location htouches hbelow => ?_
    exact absurd (hbelow.trans (Small.isPrefix_of_step hstep htouches)) (by decide +kernel)
  have hplain : ∀ package ∈ Small.resolved.packages, Small.resolved.IsMember package → package.manifest.Plain := by
    intro package hpackage hmember
    rw [Small.eq_member hpackage hmember]
    decide +kernel
  have helsewhere : ∀ package ∈ Small.resolved.packages, Small.resolved.IsMember package →
      ¬ Small.outsider.publishDirectory.location <+: package.publishDirectory.location := by
    intro package hpackage hmember
    rw [Small.eq_member hpackage hmember]
    decide +kernel
  have hstays := (hkeeps hmatches).spares Small.linkFree hplain Small.outsider (by simp [Small.resolved])
    (by decide) helsewhere hspares ["r", "elfs"] (by decide +kernel)
  exact ⟨_, asked, hruns, hiff.2 hmatches, hasked ▸ by decide +kernel, hkeeps hmatches, hstays.trans rfl⟩

/-- A pattern that matches a guest from outside has it built, and a publish directory made for it. -/
theorem outsider_baked : ∃ (result : BakeResult) (after : Session),
    Runs (bake Small.resolved Small.builder {} { packages := ["*"] } none) ⟨Small.host, []⟩ (.ok result) after ∧
    Small.resolved.DefaultsAreMembers ∧ Small.outsider ∈ Small.resolved.guests { packages := ["*"] } ∧
    Small.outsider.id ∉ Small.resolved.members ∧
    after.requests.map (fun request => request.package.id) = ["p", "d"] ∧
    Small.host.tree.get? ["r", "elfs"] = none ∧ after.host.tree.get? ["r", "elfs"] = some .directory := by
  refine ⟨⟨Small.result.targetDirectory, ["p", "d"],
      [.of Small.package Small.guest, .of Small.outsider Small.guest]⟩, _,
    runs_of_toOption ?_, Small.defaultsAreMembers, mem_guests.2 ⟨?_, ?_, ?_⟩, ?_, ?_, ?_, ?_⟩
  · decide +kernel
  · simp [Small.resolved]
  all_goals decide +kernel

end bake

end GuestForge
