import GuestForge.Proofs.Runs
set_option autoImplicit false

/-!
# The course of a run

A run is a sequence of events: requests to the builder and publications, each in the state that the one before
it left. `Course` says which sequences a run over given packages can be: complete batches, or complete batches and
then one package that fails in its build or in the publication of one of its guests.
-/
namespace GuestForge

inductive Event where
  | built (builder : Builder) (request : Request) (answer : Except Fault (List BuiltGuest))
  | published (package : Package) (guest : BuiltGuest) (answer : Except Fault PublishedGuest)
  | identified (guest : BuiltGuest) (path : Path) (answer : Except Fault (Option Path × Path))

namespace Event

def Happens : Event → Session → Session → Prop
  | .built builder request answer, before, after =>
    Runs (buildGuests builder request.package request.targetDirectory request.options) before answer after
  | .published package guest answer, before, after =>
    Runs (BakeM.onHost (publishGuest package guest)) before answer after
  | .identified guest path answer, before, after =>
    Runs (BakeM.onHost (Publish.identifiers guest path)) before answer after

def request? : Event → Option Request
  | .built _ request _ => some request
  | _ => none

end Event

inductive Trace : Session → List Event → Session → Prop where
  | nil (session : Session) : Trace session [] session
  | cons {before middle after : Session} {event : Event} {events : List Event}
      (first : event.Happens before middle) (rest : Trace middle events after) : Trace before (event :: events) after

section trace
variable {before after : Session} {event : Event} {first events : List Event}

theorem trace_nil : Trace before [] after ↔ after = before := by
  constructor
  · intro h
    cases h
    rfl
  · rintro rfl
    exact .nil after

theorem trace_cons : Trace before (event :: events) after ↔
    ∃ middle, event.Happens before middle ∧ Trace middle events after := by
  constructor
  · intro h
    cases h with
    | cons first rest => exact ⟨_, first, rest⟩
  · rintro ⟨middle, hfirst, hrest⟩
    exact .cons hfirst hrest

theorem trace_append : Trace before (first ++ events) after ↔
    ∃ middle, Trace before first middle ∧ Trace middle events after := by
  induction first generalizing before with
  | nil =>
    constructor
    · exact fun h => ⟨before, .nil before, h⟩
    · rintro ⟨middle, hnil, h⟩
      rwa [trace_nil.1 hnil] at h
  | cons event first ih =>
    rw [List.cons_append, trace_cons]
    constructor
    · rintro ⟨middle, hevent, hrest⟩
      obtain ⟨last, hfirst, hevents⟩ := ih.1 hrest
      exact ⟨last, .cons hevent hfirst, hevents⟩
    · rintro ⟨last, hfirst, hevents⟩
      obtain ⟨middle, hevent, hfirst⟩ := trace_cons.1 hfirst
      exact ⟨middle, hevent, ih.2 ⟨last, hfirst, hevents⟩⟩

theorem trace_singleton : Trace before [event] after ↔ event.Happens before after := by
  rw [trace_cons]
  constructor
  · rintro ⟨middle, hevent, hnil⟩
    rwa [trace_nil.1 hnil]
  · exact fun h => ⟨after, h, .nil after⟩

theorem trace_split {event : Event} (h : Trace before (first ++ event :: events) after) :
    ∃ start middle, Trace before first start ∧ event.Happens start middle ∧ Trace middle events after := by
  obtain ⟨start, hfirst, hrest⟩ := trace_append.1 h
  obtain ⟨middle, hevent, hevents⟩ := trace_cons.1 hrest
  exact ⟨start, middle, hfirst, hevent, hevents⟩

/-- What every event keeps, the run keeps. -/
theorem Trace.invariant (holds : Session → Prop) (h : Trace before events after)
    (step : ∀ event ∈ events, ∀ s t, event.Happens s t → holds s → holds t) (start : holds before) : holds after := by
  induction h with
  | nil session => exact start
  | @cons before middle after event events first rest ih =>
    apply ih
    · exact fun other hother => step other (List.mem_cons_of_mem _ hother)
    · exact step event List.mem_cons_self _ _ first start

end trace

section requests
variable {α : Type} {before after : Session}

theorem runs_onHost {act : HostM α} {answer : Except Fault α} :
    Runs (BakeM.onHost act) before answer after ↔
      Runs act before.host answer after.host ∧ after.requests = before.requests := by
  obtain ⟨result, host, h⟩ := Runs.exists act before.host
  have hruns : Runs (BakeM.onHost act) before result { before with host := host } := by
    unfold Runs at h ⊢
    change (fun (p : Except Fault α × Host) => (p.1, { before with host := p.2 })) (act.run.run before.host) = _
    rw [h]
  rw [hruns.iff, h.iff]
  constructor
  · rintro ⟨rfl, rfl⟩
    exact ⟨⟨rfl, rfl⟩, rfl⟩
  · rintro ⟨⟨rfl, hhost⟩, hrequests⟩
    refine ⟨rfl, ?_⟩
    cases after
    cases hhost
    cases hrequests
    rfl

/-- The answer to a request, in which faults of the builder that are no bake errors are named after the package. -/
def named (package : Package) : Except Fault α → Except Fault α
  | .ok a => .ok a
  | .error (.bake error) => .error (.bake error)
  | .error fault => .error (.bake (.build (.raised package.name fault.message) (some package.name) none none))

theorem runs_buildGuests {builder : Builder} (request : Request) {answer : Except Fault (List BuiltGuest)} :
    Runs (buildGuests builder request.package request.targetDirectory request.options) before answer after ↔
      ∃ result, Runs (builder request.package request.targetDirectory request.options) before.host result after.host ∧
        answer = named request.package result ∧ after.requests = before.requests ++ [request] := by
  obtain ⟨result, host, h⟩ :=
    Runs.exists (builder request.package request.targetDirectory request.options) before.host
  have hruns : Runs (buildGuests builder request.package request.targetDirectory request.options) before
      (named request.package result) ⟨host, before.requests ++ [request]⟩ := by
    refine runs_bind.2 (.inl ⟨(), ⟨before.host, before.requests ++ [request]⟩, rfl, runs_tryCatch.2 ?_⟩)
    have hbuilds : Runs (BakeM.onHost (builder request.package request.targetDirectory request.options))
        ⟨before.host, before.requests ++ [request]⟩ result ⟨host, before.requests ++ [request]⟩ :=
      runs_onHost.2 ⟨h, rfl⟩
    cases result with
    | ok guests => exact .inl ⟨guests, hbuilds, rfl⟩
    | error fault =>
      refine .inr ⟨fault, _, hbuilds, ?_⟩
      cases fault <;> exact runs_throw.2 ⟨rfl, rfl⟩
  rw [hruns.iff]
  constructor
  · rintro ⟨rfl, rfl⟩
    exact ⟨result, h, rfl, rfl⟩
  · rintro ⟨other, hother, rfl, hrequests⟩
    obtain ⟨rfl, hhost⟩ := h.unique hother
    refine ⟨rfl, ?_⟩
    cases after
    cases hhost
    cases hrequests
    rfl

theorem Trace.requests {events : List Event} (h : Trace before events after) :
    after.requests = before.requests ++ events.filterMap Event.request? := by
  induction h with
  | nil session => exact (List.append_nil _).symm
  | @cons before middle after event events first rest ih =>
    cases event with
    | built builder request answer =>
      obtain ⟨result, -, -, hrequests⟩ := (runs_buildGuests _).1 first
      rw [ih, hrequests, List.append_assoc]
      rfl
    | published package guest answer =>
      rw [ih, (runs_onHost.1 first).2]
      rfl
    | identified guest path answer =>
      rw [ih, (runs_onHost.1 first).2]
      rfl

end requests

def publications (package : Package) (published : List (BuiltGuest × PublishedGuest)) : List Event :=
  published.map fun (guest, entry) => .published package guest (.ok entry)

structure Batch where
  package : Package
  published : List (BuiltGuest × PublishedGuest)

def Batch.entries (batch : Batch) : List PublishedGuest := batch.published.map Prod.snd

structure Plan where
  builder : Builder
  targetDirectory : Path
  options : GuestOptions

namespace Plan
variable (plan : Plan)

def request (package : Package) : Request := ⟨package, plan.targetDirectory, plan.options⟩

def build (package : Package) (answer : Except Fault (List BuiltGuest)) : Event :=
  .built plan.builder (plan.request package) answer

def batch (batch : Batch) : List Event :=
  plan.build batch.package (.ok (batch.published.map Prod.fst)) :: publications batch.package batch.published

def Fails (package : Package) (fault : Fault) (events : List Event) : Prop :=
  events = [plan.build package (.error fault)] ∨
  ∃ published guest others, events = plan.build package (.ok (published.map Prod.fst ++ guest :: others)) ::
    (publications package published ++ [.published package guest (.error fault)])

end Plan

/-- In complete batches builds and publications succeed, and they are those of the packages. -/
theorem Plan.mem_batches {plan : Plan} {batches : List Batch} {event : Event} (h : event ∈ batches.flatMap plan.batch) :
    (∃ package guests, event = plan.build package (.ok guests)) ∨
      ∃ batch ∈ batches, ∃ guest entry, event = .published batch.package guest (.ok entry) := by
  obtain ⟨batch, hbatch, hevent⟩ := List.mem_flatMap.1 h
  rcases List.mem_cons.1 hevent with rfl | hpublished
  · exact .inl ⟨_, _, rfl⟩
  · obtain ⟨⟨guest, entry⟩, -, rfl⟩ := List.mem_map.1 hpublished
    exact .inr ⟨batch, hbatch, guest, entry, rfl⟩

/-- Whether an event belongs to a run over packages. -/
def Plan.Makes (plan : Plan) (packages : List Package) : Event → Prop
  | .built builder _ _ => builder = plan.builder
  | .published package _ _ => package ∈ packages
  | .identified _ _ _ => False

section makes
variable {plan : Plan} {packages : List Package}

theorem Plan.makes_batches {batches : List Batch} {event : Event} (h : event ∈ batches.flatMap plan.batch) :
    plan.Makes (batches.map Batch.package) event := by
  rcases Plan.mem_batches h with ⟨package, guests, rfl⟩ | ⟨batch, hbatch, guest, entry, rfl⟩
  · exact rfl
  · exact List.mem_map_of_mem hbatch

theorem Plan.Fails.makes {package : Package} {fault : Fault} {events : List Event}
    (h : plan.Fails package fault events) {event : Event} (hevent : event ∈ events) :
    plan.Makes [package] event := by
  rcases h with rfl | ⟨published, guest, others, rfl⟩
  · rw [List.mem_singleton.1 hevent]
    exact rfl
  · rcases List.mem_cons.1 hevent with rfl | hevent
    · exact rfl
    · rcases List.mem_append.1 hevent with hpublished | hlast
      · obtain ⟨_, -, rfl⟩ := List.mem_map.1 hpublished
        exact List.mem_singleton_self _
      · rw [List.mem_singleton.1 hlast]
        exact List.mem_singleton_self _

theorem Plan.Makes.mono {wider : List Package} (h : ∀ package ∈ packages, package ∈ wider) {event : Event}
    (hevent : plan.Makes packages event) : plan.Makes wider event := by
  cases event with
  | built builder request answer => exact hevent
  | published package guest answer => exact h package hevent
  | identified guest path answer => exact hevent

end makes

section batches
variable {plan : Plan} {package : Package} {packages : List Package} {before after : Session} {fault : Fault}

theorem runs_publishAll_ok {guests : List BuiltGuest} {entries : List PublishedGuest} :
    Runs (guests.mapM fun guest => BakeM.onHost (publishGuest package guest)) before (.ok entries) after ↔
      ∃ published : List (BuiltGuest × PublishedGuest), published.map Prod.fst = guests ∧
        published.map Prod.snd = entries ∧ Trace before (publications package published) after := by
  induction guests generalizing before entries with
  | nil =>
    rw [runs_mapM_nil]
    constructor
    · rintro ⟨hentries, rfl⟩
      exact ⟨[], rfl, (Except.ok.inj hentries).symm, .nil after⟩
    · rintro ⟨published, hguests, rfl, htrace⟩
      obtain rfl := List.map_eq_nil_iff.1 hguests
      exact ⟨rfl, trace_nil.1 htrace⟩
  | cons guest rest ih =>
    rw [runs_mapM_cons_ok]
    constructor
    · rintro ⟨entry, others, middle, rfl, hfirst, hrest⟩
      obtain ⟨published, rfl, rfl, htrace⟩ := ih.1 hrest
      exact ⟨(guest, entry) :: published, rfl, rfl, .cons hfirst htrace⟩
    · rintro ⟨published, hguests, rfl, htrace⟩
      obtain ⟨⟨guest, entry⟩, published, rfl, rfl, rfl⟩ := List.map_eq_cons_iff.1 hguests
      obtain ⟨middle, hfirst, hrest⟩ := trace_cons.1 htrace
      exact ⟨entry, _, middle, rfl, hfirst, ih.2 ⟨published, rfl, rfl, hrest⟩⟩

theorem runs_bakePackage_ok {entries : List PublishedGuest} :
    Runs (bakePackage plan.builder plan.targetDirectory plan.options package) before (.ok entries) after ↔
      ∃ published : List (BuiltGuest × PublishedGuest), published.map Prod.snd = entries ∧
        Trace before (plan.batch ⟨package, published⟩) after := by
  rw [bakePackage, runs_bind_ok]
  constructor
  · rintro ⟨guests, middle, hbuilt, hpublished⟩
    obtain ⟨published, rfl, rfl, htrace⟩ := runs_publishAll_ok.1 hpublished
    exact ⟨published, rfl, .cons hbuilt htrace⟩
  · rintro ⟨published, rfl, htrace⟩
    obtain ⟨middle, hbuilt, hrest⟩ := trace_cons.1 htrace
    exact ⟨_, middle, hbuilt, runs_publishAll_ok.2 ⟨published, rfl, rfl, hrest⟩⟩

theorem runs_bakePackage_error :
    Runs (bakePackage plan.builder plan.targetDirectory plan.options package) before (.error fault) after ↔
      ∃ events, plan.Fails package fault events ∧ Trace before events after := by
  rw [bakePackage, runs_bind_error]
  constructor
  · rintro (hbuilt | ⟨guests, middle, hbuilt, hpublished⟩)
    · exact ⟨_, .inl rfl, trace_singleton.2 hbuilt⟩
    · obtain ⟨done, guest, others, entries, last, rfl, hdone, hfails⟩ := runs_mapM_error.1 hpublished
      obtain ⟨published, rfl, -, htrace⟩ := runs_publishAll_ok.1 hdone
      exact ⟨_, .inr ⟨published, guest, others, rfl⟩,
        .cons hbuilt (trace_append.2 ⟨last, htrace, trace_singleton.2 hfails⟩)⟩
  · rintro ⟨events, rfl | ⟨published, guest, others, rfl⟩, htrace⟩
    · exact .inl (trace_singleton.1 htrace)
    · obtain ⟨middle, hbuilt, hrest⟩ := trace_cons.1 htrace
      obtain ⟨last, hdone, hfails⟩ := trace_append.1 hrest
      exact .inr ⟨_, middle, hbuilt, runs_mapM_error.2 ⟨_, guest, others, _, last, rfl,
        runs_publishAll_ok.2 ⟨published, rfl, rfl, hdone⟩, trace_singleton.1 hfails⟩⟩

theorem runs_bakePackages_ok {lists : List (List PublishedGuest)} :
    Runs (packages.mapM (bakePackage plan.builder plan.targetDirectory plan.options)) before (.ok lists) after ↔
      ∃ batches : List Batch, batches.map Batch.package = packages ∧
        lists = batches.map Batch.entries ∧
        Trace before (batches.flatMap plan.batch) after := by
  induction packages generalizing before lists with
  | nil =>
    rw [runs_mapM_nil]
    constructor
    · rintro ⟨hlists, rfl⟩
      exact ⟨[], rfl, Except.ok.inj hlists, .nil after⟩
    · rintro ⟨batches, hpackages, rfl, htrace⟩
      obtain rfl := List.map_eq_nil_iff.1 hpackages
      exact ⟨rfl, trace_nil.1 htrace⟩
  | cons package rest ih =>
    rw [runs_mapM_cons_ok]
    constructor
    · rintro ⟨entries, others, middle, rfl, hfirst, hrest⟩
      obtain ⟨published, rfl, hbatch⟩ := runs_bakePackage_ok.1 hfirst
      obtain ⟨batches, rfl, rfl, htrace⟩ := ih.1 hrest
      exact ⟨⟨package, published⟩ :: batches, rfl, rfl, trace_append.2 ⟨middle, hbatch, htrace⟩⟩
    · rintro ⟨batches, hpackages, rfl, htrace⟩
      obtain ⟨batch, batches, rfl, rfl, rfl⟩ := List.map_eq_cons_iff.1 hpackages
      obtain ⟨middle, hbatch, hrest⟩ := trace_append.1 htrace
      exact ⟨_, _, middle, rfl, runs_bakePackage_ok.2 ⟨_, rfl, hbatch⟩, ih.2 ⟨batches, rfl, rfl, hrest⟩⟩

theorem runs_bakePackages_error :
    Runs (packages.mapM (bakePackage plan.builder plan.targetDirectory plan.options)) before (.error fault) after ↔
      ∃ (batches : List Batch) (package : Package) (rest : List Package) (events : List Event),
        packages = batches.map Batch.package ++ package :: rest ∧ plan.Fails package fault events ∧
        Trace before (batches.flatMap plan.batch ++ events) after := by
  rw [runs_mapM_error]
  constructor
  · rintro ⟨done, package, rest, lists, middle, rfl, hdone, hfails⟩
    obtain ⟨batches, rfl, -, htrace⟩ := runs_bakePackages_ok.1 hdone
    obtain ⟨events, hevents, hlast⟩ := runs_bakePackage_error.1 hfails
    exact ⟨batches, package, rest, events, rfl, hevents, trace_append.2 ⟨middle, htrace, hlast⟩⟩
  · rintro ⟨batches, package, rest, events, rfl, hevents, htrace⟩
    obtain ⟨middle, hdone, hlast⟩ := trace_append.1 htrace
    exact ⟨_, package, rest, _, middle, rfl, runs_bakePackages_ok.2 ⟨batches, rfl, rfl, hdone⟩,
      runs_bakePackage_error.2 ⟨events, hevents, hlast⟩⟩

end batches

section bake
variable {workspace : Workspace} {builder : Builder} {configuration : Configuration} {selection : Selection}
  {root : Option Path} {before after : Session}

def Workspace.plan (workspace : Workspace) (builder : Builder) (configuration : Configuration) (root : Option Path)
    (host : Host) : Plan :=
  ⟨builder, workspace.guestTargetDirectory, configuration.guestOptions (root.getD host.currentDirectory)⟩

def Workspace.result (workspace : Workspace) (batches : List Batch) : BakeResult :=
  ⟨workspace.guestTargetDirectory, batches.map fun batch => batch.package.name,
    batches.flatMap Batch.entries⟩

/-- Which events a run over packages can be, by its answer. -/
def Course (plan : Plan) (packages : List Package) : Except Fault (List Batch) → List Event → Prop
  | .ok batches, events => batches.map Batch.package = packages ∧ events = batches.flatMap plan.batch
  | .error fault, events => ∃ (batches : List Batch) (package : Package) (rest : List Package) (last : List Event),
      packages = batches.map Batch.package ++ package :: rest ∧ plan.Fails package fault last ∧
        events = batches.flatMap plan.batch ++ last

theorem Course.makes {plan : Plan} {packages : List Package} {outcome : Except Fault (List Batch)}
    {events : List Event} (h : Course plan packages outcome events) {event : Event} (hevent : event ∈ events) :
    plan.Makes packages event := by
  cases outcome with
  | ok batches =>
    obtain ⟨rfl, rfl⟩ := h
    exact Plan.makes_batches hevent
  | error fault =>
    obtain ⟨batches, package, rest, last, rfl, hfails, rfl⟩ := h
    rcases List.mem_append.1 hevent with hbatch | hlast
    · exact (Plan.makes_batches hbatch).mono fun _ => List.mem_append_left _
    · refine (hfails.makes hlast).mono fun other hother => ?_
      rw [List.mem_singleton.1 hother]
      exact List.mem_append_right _ List.mem_cons_self

/-- A run reads the session only for the current directory, before it starts. -/
theorem runs_bake_eq {answer : Except Fault BakeResult} :
    Runs (bake workspace builder configuration selection root) before answer after ↔
      Runs (do
        let lists ← (workspace.guests selection).mapM
          (bakePackage builder workspace.guestTargetDirectory
            (workspace.plan builder configuration root before.host).options)
        pure ⟨workspace.guestTargetDirectory, (workspace.guests selection).map Package.name, lists.flatten⟩)
        before answer after := Iff.rfl

theorem runs_bake {answer : Except Fault BakeResult} :
    Runs (bake workspace builder configuration selection root) before answer after ↔
      ∃ outcome events, Course (workspace.plan builder configuration root before.host) (workspace.guests selection)
        outcome events ∧ answer = outcome.map workspace.result ∧ Trace before events after := by
  have hok := @runs_bakePackages_ok (workspace.plan builder configuration root before.host)
    (workspace.guests selection) before
  have herror := @runs_bakePackages_error (workspace.plan builder configuration root before.host)
    (workspace.guests selection) before
  rw [runs_bake_eq, runs_bind]
  constructor
  · rintro (⟨lists, middle, hruns, hpure⟩ | ⟨fault, hruns, rfl⟩)
    · obtain ⟨rfl, rfl⟩ := runs_pure.1 hpure
      obtain ⟨batches, hpackages, rfl, htrace⟩ := hok.1 hruns
      refine ⟨.ok batches, _, ⟨hpackages, rfl⟩, ?_, htrace⟩
      rw [← hpackages, List.map_map, ← List.flatMap_def]
      rfl
    · obtain ⟨batches, package, rest, last, hpackages, hfails, htrace⟩ := herror.1 hruns
      exact ⟨.error fault, _, ⟨batches, package, rest, last, hpackages, hfails, rfl⟩, rfl, htrace⟩
  · rintro ⟨fault | batches, events, hcourse, rfl, htrace⟩
    · obtain ⟨batches, package, rest, last, hpackages, hfails, rfl⟩ := hcourse
      exact .inr ⟨fault, herror.2 ⟨batches, package, rest, last, hpackages, hfails, htrace⟩, rfl⟩
    · obtain ⟨hpackages, rfl⟩ := hcourse
      refine .inl ⟨_, after, hok.2 ⟨batches, hpackages, rfl, htrace⟩, runs_pure.2 ⟨?_, rfl⟩⟩
      rw [← hpackages, List.map_map, ← List.flatMap_def]
      rfl

end bake

section onHost
variable {plan : Plan} {package : Package} {packages : List Package} {before after : Session}

def Plan.onHost (plan : Plan) (package : Package) : HostM (List PublishedGuest) := do
  let guests ← plan.builder package plan.targetDirectory plan.options
  guests.mapM fun guest => publishGuest package guest

theorem runs_publishAll_onHost {guests : List BuiltGuest} {entries : List PublishedGuest} :
    Runs (guests.mapM fun guest => BakeM.onHost (publishGuest package guest)) before (.ok entries) after ↔
      Runs (guests.mapM fun guest => publishGuest package guest) before.host (.ok entries) after.host ∧
        after.requests = before.requests := by
  induction guests generalizing before entries with
  | nil =>
    rw [runs_mapM_nil, runs_mapM_nil]
    constructor
    · rintro ⟨hentries, rfl⟩
      exact ⟨⟨hentries, rfl⟩, rfl⟩
    · rintro ⟨⟨hentries, hhost⟩, hrequests⟩
      cases after
      cases hhost
      cases hrequests
      exact ⟨hentries, rfl⟩
  | cons guest rest ih =>
    rw [runs_mapM_cons_ok, runs_mapM_cons_ok]
    constructor
    · rintro ⟨entry, others, middle, hentries, hfirst, hrest⟩
      obtain ⟨hfirst, hsame⟩ := runs_onHost.1 hfirst
      obtain ⟨hrest, hsame'⟩ := ih.1 hrest
      exact ⟨⟨entry, others, _, hentries, hfirst, hrest⟩, hsame'.trans hsame⟩
    · rintro ⟨⟨entry, others, host, hentries, hfirst, hrest⟩, hsame⟩
      exact ⟨entry, others, ⟨host, before.requests⟩, hentries, runs_onHost.2 ⟨hfirst, rfl⟩, ih.2 ⟨hrest, hsame⟩⟩

theorem named_eq_ok {α : Type} {result : Except Fault α} {a : α} : .ok a = named package result ↔ result = .ok a := by
  rcases result with (_ | _ | _ | _ | _ | _ | _) | b <;> simp [named, eq_comm]

theorem runs_bakePackage_onHost {entries : List PublishedGuest} :
    Runs (bakePackage plan.builder plan.targetDirectory plan.options package) before (.ok entries) after ↔
      Runs (plan.onHost package) before.host (.ok entries) after.host ∧
        after.requests = before.requests ++ [plan.request package] := by
  rw [bakePackage, runs_bind_ok, Plan.onHost, runs_bind_ok]
  constructor
  · rintro ⟨guests, middle, hbuilt, hpublished⟩
    obtain ⟨result, hbuilds, hnamed, hrequests⟩ := (runs_buildGuests (plan.request package)).1 hbuilt
    obtain ⟨hpublished, hsame⟩ := runs_publishAll_onHost.1 hpublished
    rw [named_eq_ok.1 hnamed] at hbuilds
    exact ⟨⟨guests, _, hbuilds, hpublished⟩, hsame.trans hrequests⟩
  · rintro ⟨⟨guests, host, hbuilds, hpublished⟩, hrequests⟩
    have hbuilt : Runs (buildGuests plan.builder package plan.targetDirectory plan.options) before (.ok guests)
        ⟨host, before.requests ++ [plan.request package]⟩ :=
      (runs_buildGuests (plan.request package)).2 ⟨.ok guests, hbuilds, rfl, rfl⟩
    exact ⟨guests, _, hbuilt, runs_publishAll_onHost.2 ⟨hpublished, hrequests⟩⟩

theorem runs_bakePackages_onHost {lists : List (List PublishedGuest)} :
    Runs (packages.mapM (bakePackage plan.builder plan.targetDirectory plan.options)) before (.ok lists) after ↔
      Runs (packages.mapM plan.onHost) before.host (.ok lists) after.host ∧
        after.requests = before.requests ++ packages.map plan.request := by
  induction packages generalizing before lists with
  | nil =>
    rw [runs_mapM_nil, runs_mapM_nil, List.map_nil, List.append_nil]
    constructor
    · rintro ⟨hlists, rfl⟩
      exact ⟨⟨hlists, rfl⟩, rfl⟩
    · rintro ⟨⟨hlists, hhost⟩, hrequests⟩
      cases after
      cases hhost
      cases hrequests
      exact ⟨hlists, rfl⟩
  | cons package rest ih =>
    rw [runs_mapM_cons_ok, runs_mapM_cons_ok, List.map_cons]
    constructor
    · rintro ⟨entries, others, middle, hlists, hfirst, hrest⟩
      obtain ⟨hfirst, hrequests⟩ := runs_bakePackage_onHost.1 hfirst
      obtain ⟨hrest, hrequests'⟩ := ih.1 hrest
      refine ⟨⟨entries, others, _, hlists, hfirst, hrest⟩, ?_⟩
      rw [hrequests', hrequests, List.append_assoc]
      rfl
    · rintro ⟨⟨entries, others, host, hlists, hfirst, hrest⟩, hrequests⟩
      refine ⟨entries, others, ⟨host, before.requests ++ [plan.request package]⟩, hlists,
        runs_bakePackage_onHost.2 ⟨hfirst, rfl⟩, ih.2 ⟨hrest, ?_⟩⟩
      rw [hrequests, List.append_assoc]
      rfl

theorem runs_bake_onHost {workspace : Workspace} {builder : Builder} {configuration : Configuration}
    {selection : Selection} {root : Option Path} {result : BakeResult} :
    Runs (bake workspace builder configuration selection root) before (.ok result) after ↔
      ∃ lists, Runs ((workspace.guests selection).mapM
          (workspace.plan builder configuration root before.host).onHost) before.host (.ok lists) after.host ∧
        after.requests = before.requests ++
          (workspace.guests selection).map (workspace.plan builder configuration root before.host).request ∧
        result = ⟨workspace.guestTargetDirectory, (workspace.guests selection).map Package.name, lists.flatten⟩ := by
  have hhost := @runs_bakePackages_onHost (workspace.plan builder configuration root before.host)
    (workspace.guests selection) before
  rw [runs_bake_eq, runs_bind_ok]
  constructor
  · rintro ⟨lists, middle, hruns, hpure⟩
    obtain ⟨hanswer, rfl⟩ := runs_pure.1 hpure
    obtain ⟨hruns, hrequests⟩ := hhost.1 hruns
    exact ⟨lists, hruns, hrequests, Except.ok.inj hanswer⟩
  · rintro ⟨lists, hruns, hrequests, rfl⟩
    exact ⟨lists, after, hhost.2 ⟨hruns, hrequests⟩, runs_pure.2 ⟨rfl, rfl⟩⟩

theorem runs_bake_single {workspace : Workspace} {builder : Builder} {configuration : Configuration}
    {selection : Selection} {root : Option Path} {guests : List BuiltGuest} {entries : List PublishedGuest}
    {built published : Host} (selects : workspace.guests selection = [package])
    (builds : Runs (builder package workspace.guestTargetDirectory
      (configuration.guestOptions (root.getD before.host.currentDirectory))) before.host (.ok guests) built)
    (publishes : Runs (guests.mapM fun guest => publishGuest package guest) built (.ok entries) published) :
    ∃ after, Runs (bake workspace builder configuration selection root) before
      (.ok ⟨workspace.guestTargetDirectory, [package.name], entries⟩) after := by
  have hpackage : Runs ((workspace.plan builder configuration root before.host).onHost package) before.host (.ok entries)
      published := runs_bind_ok.2 ⟨guests, built, builds, publishes⟩
  refine ⟨⟨published, _⟩, runs_bake_onHost.2 ⟨[entries], ?_, rfl, ?_⟩⟩
  · rw [selects]
    exact runs_mapM_cons_ok.2 ⟨entries, [], published, rfl, hpackage, runs_mapM_nil.2 ⟨rfl, rfl⟩⟩
  · rw [selects, List.flatten_singleton]
    rfl

end onHost

end GuestForge
