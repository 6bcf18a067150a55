import GuestForge.Proofs.BuildLogs
import GuestForge.Proofs.Outsiders
import GuestForge.Proofs.Reports
import GuestForge.Proofs.TimeStamps
set_option autoImplicit false

/-!
# What a run takes from the metadata

A run needs little of what a metadata document says. Of a package it reads the id, the name, the path of the manifest
and whether the package builds guests; of a workspace it reads the packages in order, who the members and the default
members are, and the target directory. Two workspaces that agree on this are baked alike: the same processes are
started in the same places, the same comes out, and the same files are left, with the time stamps of the run.
-/
namespace GuestForge
open Selection (baseIds)

structure Package.Alike (package other : Package) : Prop where
  id : package.id = other.id
  name : package.name = other.name
  manifest : package.manifest = other.manifest
  table : package.NamesGuests ↔ other.NamesGuests
  binary : package.BuildsBinary ↔ other.BuildsBinary

def SameIds (ids others : List String) : Prop := ∀ id, id ∈ ids ↔ id ∈ others

structure Workspace.Alike (workspace other : Workspace) : Prop where
  packages : List.Forall₂ Package.Alike workspace.packages other.packages
  members : SameIds workspace.members other.members
  defaultMembers : Option.Rel SameIds workspace.defaultMembers other.defaultMembers
  targetDirectory : workspace.targetDirectory = other.targetDirectory

section selection
variable {workspace other : Workspace} {package twin : Package}

theorem Package.Alike.isGuest (h : package.Alike twin) : package.isGuest = twin.isGuest := by
  have htable : package.hasGuestTable = twin.hasGuestTable := by
    rw [Bool.eq_iff_iff, hasGuestTable_iff, hasGuestTable_iff, h.table]
  have hbinary : package.hasBinary = twin.hasBinary := by
    rw [Bool.eq_iff_iff, hasBinary_iff, hasBinary_iff, h.binary]
  rw [Package.isGuest, Package.isGuest, htable, hbinary]

theorem map_alike {α : Type} {read : Package → α} (same : ∀ package twin, package.Alike twin → read package = read twin)
    {packages twins : List Package} (h : List.Forall₂ Package.Alike packages twins) :
    packages.map read = twins.map read := by
  rw [← List.forall₂_eq_eq_eq, List.forall₂_map_left_iff, List.forall₂_map_right_iff]
  exact h.imp same

theorem filter_alike {keeps keeps' : Package → Bool}
    (same : ∀ package twin, package.Alike twin → keeps package = keeps' twin) {packages twins : List Package}
    (h : List.Forall₂ Package.Alike packages twins) :
    List.Forall₂ Package.Alike (packages.filter keeps) (twins.filter keeps') :=
  List.rel_filter (fun _ _ halike => Bool.eq_iff_iff.1 (same _ _ halike)) h

theorem Workspace.Alike.mem_baseIds (h : workspace.Alike other) (selection : Selection) :
    SameIds (baseIds workspace selection) (baseIds other selection) := by
  unfold baseIds
  cases selection.mode with
  | all => exact h.members
  | optOut => exact h.members
  | packages =>
    have hmatches : ∀ package twin : Package, package.Alike twin →
        Selection.matchesAny selection.packages package.name = Selection.matchesAny selection.packages twin.name :=
      fun _ _ halike => congrArg _ halike.name
    intro id
    rw [map_alike (fun _ _ halike => halike.id) (filter_alike hmatches h.packages)]
  | default =>
    -- A list of default members that is empty counts as none, and only the empty list names nobody.
    obtain ⟨_, members, defaults, _, _⟩ := workspace
    obtain ⟨_, members', defaults', _, _⟩ := other
    have hmembers : SameIds members members' := h.members
    cases h.defaultMembers with
    | none => exact hmembers
    | @some ids ids' hids =>
      cases ids with
      | nil =>
        obtain rfl : ids' = [] := List.eq_nil_iff_forall_not_mem.2 fun id hid => by
          simpa using (hids id).2 hid
        exact hmembers
      | cons id rest =>
        cases ids' with
        | nil => simpa using (hids id).1 List.mem_cons_self
        | cons id' rest' => exact hids

theorem Workspace.Alike.includes (h : workspace.Alike other) (selection : Selection) (halike : package.Alike twin) :
    selection.includes workspace package = selection.includes other twin := by
  have hbase : (baseIds workspace selection).contains package.id = (baseIds other selection).contains twin.id := by
    rw [Bool.eq_iff_iff, List.contains_iff_mem, List.contains_iff_mem, h.mem_baseIds selection, halike.id]
  rw [Selection.includes, Selection.includes, hbase, halike.name]

theorem Workspace.Alike.guests (h : workspace.Alike other) (selection : Selection) :
    List.Forall₂ Package.Alike (workspace.guests selection) (other.guests selection) :=
  filter_alike (fun _ _ halike => halike.isGuest) (filter_alike (fun _ _ halike => h.includes selection halike) h.packages)

end selection

theorem builder_alike (command : String) {package twin : Package} (h : package.Alike twin) :
    External.builder command package = External.builder command twin := by
  obtain ⟨_, name, _, manifest, _, _⟩ := package
  obtain ⟨_, name', _, manifest', _, _⟩ := twin
  obtain rfl : name = name' := h.name
  obtain rfl : manifest = manifest' := h.manifest
  rfl

theorem publishGuest_alike {package twin : Package} (h : package.Alike twin) (guest : BuiltGuest) :
    publishGuest package guest = publishGuest twin guest := by
  obtain ⟨_, name, _, manifest, _, _⟩ := package
  obtain ⟨_, name', _, manifest', _, _⟩ := twin
  obtain rfl : name = name' := h.name
  obtain rfl : manifest = manifest' := h.manifest
  rfl

/-- Two sessions on hosts that are the same but for the time. -/
def Session.Matches (clock clock' : Clock) (session other : Session) : Prop :=
  session.host.Matches clock clock' other.host

section works
variable {clock clock' : Clock} {package twin : Package} {α : Type}

theorem agree_onHost {act act' : HostM α} (h : Agree (Host.Matches clock clock') Eq act act') :
    Agree (Session.Matches clock clock') Eq (BakeM.onHost act) (BakeM.onHost act') := by
  intro session other hosts
  obtain ⟨answer, answer', after, after', hruns, hruns', hanswers, hafter⟩ := h session.host other.host hosts
  exact ⟨answer, answer', ⟨after, session.requests⟩, ⟨after', other.requests⟩, runs_onHost.2 ⟨hruns, rfl⟩,
    runs_onHost.2 ⟨hruns', rfl⟩, hanswers, hafter⟩

theorem agree_buildGuests (length : clock.SameLength clock') (command : String)
    (h : package.Alike twin) (directory : Path) (options : GuestOptions) :
    Agree (Session.Matches clock clock') Eq (buildGuests (External.builder command) package directory options)
      (buildGuests (External.builder command) twin directory options) := by
  have hrequested : Agree (Session.Matches clock clock') Eq
      (modify fun session => { session with requests := session.requests ++ [⟨package, directory, options⟩] } :
        BakeM PUnit)
      (modify fun session => { session with requests := session.requests ++ [⟨twin, directory, options⟩] }) :=
    fun _ _ hosts => ⟨_, _, _, _, rfl, rfl, .ok rfl, hosts⟩
  refine Agree.bind hrequested fun _ _ _ => Agree.tryCatch (agree_onHost ?_) fun fault => ?_
  · rw [← builder_alike command h]
    exact agree_builder length command package directory options
  · rw [h.name]
    split <;> exact Agree.throw _

theorem agree_bakePackage (length : clock.SameLength clock') (command : String) (directory : Path)
    (options : GuestOptions) (h : package.Alike twin) :
    Agree (Session.Matches clock clock') Eq (bakePackage (External.builder command) directory options package)
      (bakePackage (External.builder command) directory options twin) := by
  refine Agree.bind (agree_buildGuests length command h directory options) ?_
  rintro guests _ rfl
  refine Agree.mapM (fun guest guest' (heq : guest = guest') => ?_) (List.forall₂_refl guests)
  rw [← heq, ← publishGuest_alike h]
  exact agree_onHost (agree_publishGuest package guest)

/-- Alike workspaces are baked alike. On the same host, with the same outcomes of the processes to come, a run over
either gives the same result or fault, calls the same processes in the same directories and leaves the same files, but
for the time stamps that come from the two clocks; and with the same clock it leaves the same host. -/
theorem bake_alike {workspace other : Workspace} (alike : workspace.Alike other) (command : String)
    (configuration : Configuration) (selection : Selection) (root : Option Path)
    (length : clock.SameLength clock') {before before' : Session}
    (hosts : before.host.Matches clock clock' before'.host) :
    ∃ answer after after',
      Runs (bake workspace (External.builder command) configuration selection root) before answer after ∧
      Runs (bake other (External.builder command) configuration selection root) before' answer after' ∧
      after.host.Matches clock clock' after'.host ∧ (clock = clock' → after.host = after'.host) := by
  have hdirectory : workspace.guestTargetDirectory = other.guestTargetDirectory := by
    rw [Workspace.guestTargetDirectory, Workspace.guestTargetDirectory, alike.targetDirectory]
  have hguests := alike.guests selection
  have hnames : (workspace.guests selection).map Package.name = (other.guests selection).map Package.name :=
    map_alike (fun _ _ halike => halike.name) hguests
  have hlists := Agree.mapM (fun (package twin : Package) (halike : package.Alike twin) =>
    agree_bakePackage length command workspace.guestTargetDirectory
      (workspace.plan (External.builder command) configuration root before.host).options halike) hguests
  have hresult : ∀ lists lists' : List (List PublishedGuest), lists = lists' →
      Agree (Session.Matches clock clock') Eq
        (Pure.pure ⟨workspace.guestTargetDirectory, (workspace.guests selection).map Package.name, lists.flatten⟩ :
          BakeM BakeResult)
        (Pure.pure ⟨workspace.guestTargetDirectory, (workspace.guests selection).map Package.name, lists'.flatten⟩) := by
    rintro lists _ rfl
    exact Agree.pure rfl
  obtain ⟨answer, answer', after, after', hruns, hruns', hanswers, hafter⟩ :=
    Agree.bind hlists hresult before before' hosts
  obtain rfl := hanswers.eq
  have hoptions : (workspace.plan (External.builder command) configuration root before.host).options =
      (other.plan (External.builder command) configuration root before'.host).options := by
    simp only [Workspace.plan, Host.currentDirectory, hosts.current]
  rw [hoptions, hnames, hdirectory] at hruns'
  refine ⟨answer, after, after', runs_bake_eq.2 hruns, runs_bake_eq.2 hruns', hafter, ?_⟩
  rintro rfl
  exact Host.Matches.eq hafter

end works

namespace Small

def restated : Workspace :=
  ⟨[{ package with
      version := "9"
      table := some [("note", .null), ("risc0", .bool true)]
      targets := [⟨"lib", ["lib"], none⟩, ⟨"other", ["test", "bin"], some binary⟩] }],
    ["p", "p"], none, workspace.targetDirectory, ⟨.root, []⟩⟩

theorem alike_restated : workspace.Alike restated where
  packages := by
    refine .cons ⟨rfl, rfl, rfl, ?_, ?_⟩ .nil
    · simp [Package.NamesGuests, package]
    · simp [Package.BuildsBinary, package]
  members := by simp [SameIds, workspace, restated]
  defaultMembers := .none
  targetDirectory := rfl

def morning : Clock := ⟨fun _ => "10:00", fun _ => "10:05"⟩

def evening : Clock := ⟨fun _ => "20:00", fun _ => "20:07"⟩

theorem sameLength_clocks : morning.SameLength evening := by
  rintro _ _ (_ | _) <;> rfl

def reporting (clock : Clock) : Session where
  host := { host with
    clock := clock
    outcomes := [.ended 0 (Json.write .compact .ascii (reportOf (fun _ => false) [guest])) none [(binary, [7])]] }

def buildCall : Call :=
  ⟨["tool", "build", "--manifest-path", "/w/Cargo.toml", "--target-dir", "/t/guest", "--message-format", "json"],
    some package.directory⟩

def reported : Host :=
  External.loggedHost (External.logPath workspace.guestTargetDirectory package) buildCall (reporting morning).host

theorem reporting_bakes : ∃ after, Runs (bake workspace (External.builder "tool") {} {} none) (reporting morning)
    (.ok result) after := by
  have hwords : builderCommand "tool" package workspace.guestTargetDirectory {} = .ok buildCall.words := by decide +kernel
  have hreports := isReport_write .compact .ascii (fun _ => false) [guest]
  have hbuilds : Runs (External.builder "tool" package workspace.guestTargetDirectory {}) (reporting morning).host
      (.ok [guest]) reported :=
    External.runs_builder_reported hwords rfl rfl (parseReport_eq_ok.2 hreports) (by decide +kernel)
      (by decide +kernel)
  have hpublishes : Runs ([guest].mapM fun guest => publishGuest package guest) reported (.ok result.guests) _ :=
    runs_of_toOption (by decide +kernel)
  have hresult : result = ⟨workspace.guestTargetDirectory, [package.name], result.guests⟩ := by decide +kernel
  rw [hresult]
  exact runs_bake_single rfl hbuilds hpublishes

end Small

theorem bake_alike_small : Small.workspace.Alike Small.restated ∧ Small.morning.SameLength Small.evening ∧
    (Small.reporting Small.morning).host.Matches Small.morning Small.evening (Small.reporting Small.evening).host ∧
    ∃ after after',
      Runs (bake Small.workspace (External.builder "tool") {} {} none) (Small.reporting Small.morning) (.ok Small.result)
        after ∧
      Runs (bake Small.restated (External.builder "tool") {} {} none) (Small.reporting Small.evening) (.ok Small.result)
        after' ∧
      after.host.Matches Small.morning Small.evening after'.host := by
  have hhosts : (Small.reporting Small.morning).host.Matches Small.morning Small.evening
      (Small.reporting Small.evening).host := .of_clock (Small.reporting Small.morning).host
  obtain ⟨answer, after, after', hruns, hruns', hafter, -⟩ :=
    bake_alike Small.alike_restated "tool" {} {} none Small.sameLength_clocks hhosts
  obtain ⟨done, hok⟩ := Small.reporting_bakes
  obtain ⟨rfl, -⟩ := hok.unique hruns
  exact ⟨Small.alike_restated, Small.sameLength_clocks, hhosts, after, after', hruns, hruns', hafter⟩

end GuestForge
