import GuestForge.Proofs.PublishDirectories
import GuestForge.Proofs.Recipes
set_option autoImplicit false

/-!
# Where a run stops

A run goes through all packages or stops at the first failure. Either way it consists of complete batches and,
in the second case, the events of one package up to the one that failed. What comes behind that package in the
workspace has no part in the run.
-/
namespace GuestForge

section requests
variable {plan : Plan}

theorem requests_publications (package : Package) (published : List (BuiltGuest × PublishedGuest)) :
    (publications package published).filterMap Event.request? = [] := by
  rw [List.filterMap_eq_nil_iff]
  intro event hevent
  obtain ⟨_, -, rfl⟩ := List.mem_map.1 hevent
  rfl

/-- One request for each package. -/
theorem requests_batches (batches : List Batch) :
    (batches.flatMap plan.batch).filterMap Event.request? = (batches.map Batch.package).map plan.request := by
  induction batches with
  | nil => rfl
  | cons batch rest ih =>
    rw [List.flatMap_cons, List.filterMap_append, ih, Plan.batch, List.filterMap_cons, requests_publications]
    rfl

theorem Plan.Fails.requests {package : Package} {fault : Fault} {events : List Event}
    (h : plan.Fails package fault events) : events.filterMap Event.request? = [plan.request package] := by
  rcases h with rfl | ⟨published, guest, others, rfl⟩
  · rfl
  · rw [List.filterMap_cons, List.filterMap_append, requests_publications]
    rfl

end requests

section frame
variable {plan : Plan} {packages : List Package}

theorem extension_ne_elfs (stem : String) (sibling : Sibling) : stem ++ sibling.extension.text ≠ elfsName.text := by
  intro h
  have hlist := congrArg String.toList h
  rw [String.toList_append] at hlist
  have hlength := congrArg List.length hlist
  rw [List.length_append, Sibling.extension_length] at hlength
  have hfour : elfsName.text.toList.length = 4 := rfl
  have hnil : stem.toList = [] := List.eq_nil_of_length_eq_zero (by omega)
  rw [hnil, List.nil_append] at hlist
  have hdot : ∀ sibling : Sibling, sibling.extension.text.toList.head? = some '.' := by
    rintro (_ | _ | ⟨_ | _⟩) <;> rfl
  have hhead := hdot sibling
  rw [hlist] at hhead
  exact absurd hhead (by decide)

theorem Trace.spares_elsewhere {events : List Event} {before after : Session} (h : Trace before events after)
    (hevents : ∀ event ∈ events, plan.Makes packages event) (free : before.host.tree.LinkFree)
    (plain : ∀ package ∈ packages, package.manifest.Plain) {other : Package}
    (elsewhere : ∀ package ∈ packages, ¬ other.publishDirectory.location <+: package.publishDirectory.location)
    (spares : Spares plan.builder fun location => other.publishDirectory.location <+: location)
    {location : Location} (hlocation : other.publishDirectory.location <+: location) :
    after.host.tree.get? location = before.host.tree.get? location := by
  refine (h.invariant (fun session => session.host.tree.LinkFree ∧
    session.host.tree.get? location = before.host.tree.get? location) ?_ ⟨free, rfl⟩).2
  rintro event hevent s t happens ⟨hfree, hsame⟩
  have hmakes := hevents event hevent
  cases event with
  | built builder request answer =>
    obtain rfl : builder = plan.builder := hmakes
    obtain ⟨hfree', hspares⟩ := spares.build happens hfree
    exact ⟨hfree', (hspares location hlocation).trans hsame⟩
  | published package guest answer =>
    obtain ⟨hfree', hkeeps⟩ := publishGuest_spares (plain package hmakes) hfree (runs_onHost.1 happens).1
    refine ⟨hfree', (hkeeps location ?_ ?_).trans hsame⟩
    · exact fun hbelow => elsewhere package hmakes (hlocation.trans hbelow)
    · rintro sibling rfl
      rcases List.prefix_concat_iff.1 hlocation with hsibling | hbelow
      · rw [Path.location, other.publishDirectory_eq, List.map_append] at hsibling
        obtain ⟨-, hname⟩ := List.append_inj' hsibling rfl
        exact extension_ne_elfs _ sibling (List.singleton_inj.1 hname).symm
      · exact elsewhere package hmakes hbelow
  | identified guest path answer => exact absurd hmakes id

end frame

structure GoesThrough (plan : Plan) (packages : List Package) (batches : List Batch) (before after : Session) :
    Prop where
  baked : batches.map Batch.package = packages
  run : Trace before (batches.flatMap plan.batch) after
  requests : after.requests = before.requests ++ packages.map plan.request

structure StopsAt (plan : Plan) (packages : List Package) (batches : List Batch) (package : Package)
    (rest : List Package) (fault : Fault) (before after : Session) : Prop where
  packages : packages = batches.map Batch.package ++ package :: rest
  run : ∃ events, plan.Fails package fault events ∧ Trace before (batches.flatMap plan.batch ++ events) after
  requests : after.requests = before.requests ++ (batches.map Batch.package ++ [package]).map plan.request
  spares : before.host.tree.LinkFree →
    (∀ attempted ∈ batches.map Batch.package ++ [package], attempted.manifest.Plain) → ∀ other ∈ rest,
    (∀ attempted ∈ batches.map Batch.package ++ [package],
      ¬ other.publishDirectory.location <+: attempted.publishDirectory.location) →
    (Spares plan.builder fun location => other.publishDirectory.location <+: location) →
    ∀ location, other.publishDirectory.location <+: location →
      after.host.tree.get? location = before.host.tree.get? location

section bake
variable {workspace : Workspace} {builder : Builder} {configuration : Configuration} {selection : Selection}
  {root : Option Path} {before after : Session}

theorem stopsAt_of_trace {plan : Plan} {batches : List Batch} {package : Package} {rest : List Package} {fault : Fault}
    {events : List Event} (hfails : plan.Fails package fault events)
    (h : Trace before (batches.flatMap plan.batch ++ events) after) :
    StopsAt plan (batches.map Batch.package ++ package :: rest) batches package rest fault before after := by
  refine ⟨rfl, ⟨events, hfails, h⟩, ?_, ?_⟩
  · rw [h.requests, List.filterMap_append, requests_batches, hfails.requests, List.map_append]
    rfl
  · intro free plain other _ elsewhere spares location hlocation
    refine h.spares_elsewhere (fun event hevent => ?_) free plain elsewhere spares hlocation
    rcases List.mem_append.1 hevent with hbatch | hlast
    · exact (Plan.makes_batches hbatch).mono fun _ => List.mem_append_left _
    · exact (hfails.makes hlast).mono fun _ => List.mem_append_right _

/-- A run goes through, or it stops at the first failure, and then it would have done so with any other packages
behind the one that failed. -/
theorem bake_stops_at_first_failure {answer : Except Fault BakeResult}
    (h : Runs (bake workspace builder configuration selection root) before answer after) :
    (∀ result, answer = .ok result → ∃ batches, result = workspace.result batches ∧
      GoesThrough (workspace.plan builder configuration root before.host) (workspace.guests selection) batches
        before after) ∧
    ∀ fault, answer = .error fault → ∃ batches package rest,
      StopsAt (workspace.plan builder configuration root before.host) (workspace.guests selection) batches package
        rest fault before after ∧
      ∀ (other : Workspace) (choice : Selection) (behind : List Package),
        other.guests choice = batches.map Batch.package ++ package :: behind →
        other.guestTargetDirectory = workspace.guestTargetDirectory →
        Runs (bake other builder configuration choice root) before (.error fault) after := by
  obtain ⟨outcome, events, hcourse, rfl, htrace⟩ := runs_bake.1 h
  constructor
  · rintro result hresult
    cases outcome with
    | error fault => cases hresult
    | ok batches =>
      cases hresult
      obtain ⟨hpackages, rfl⟩ := hcourse
      refine ⟨batches, rfl, hpackages, htrace, ?_⟩
      rw [htrace.requests, requests_batches, hpackages]
  · rintro fault hfault
    cases outcome with
    | ok batches => cases hfault
    | error _ =>
      cases hfault
      obtain ⟨batches, package, rest, last, hpackages, hfails, rfl⟩ := hcourse
      refine ⟨batches, package, rest, hpackages ▸ stopsAt_of_trace hfails htrace, ?_⟩
      intro other choice behind hbehind htarget
      have hplan : other.plan builder configuration root before.host =
          workspace.plan builder configuration root before.host := by
        rw [Workspace.plan, htarget]
        rfl
      refine runs_bake.2 ⟨.error fault, _, ⟨batches, package, behind, last, hbehind, ?_, rfl⟩, rfl, ?_⟩
      · rw [hplan]
        exact hfails
      · rw [hplan]
        exact htrace

theorem bake_stops_at_second : ∃ after batches package rest, after.requests.length = 2 ∧
    StopsAt (Small.trio.plan Small.refusing {} none Small.host) (Small.trio.guests {}) batches package rest
      Small.refusal ⟨Small.host, []⟩ after := by
  have hruns : Runs (bake Small.trio Small.refusing {} {} none) ⟨Small.host, []⟩ (.error Small.refusal) _ := rfl
  obtain ⟨batches, package, rest, hstops, -⟩ := (bake_stops_at_first_failure hruns).2 _ rfl
  exact ⟨_, batches, package, rest, rfl, hstops⟩

end bake

end GuestForge
