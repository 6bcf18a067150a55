import GuestForge.Proofs.BuildLogs
import GuestForge.Proofs.LogPaths
set_option autoImplicit false

/-!
# Builds keep to their logs

Besides what its process does, a build writes its log and makes directories on the way there. Packages whose names keep
their logs in the directory of logs, at different places, never write there over one another, nor anywhere outside the
target directory; packages whose names do not are not safe from that for every target directory.
-/
namespace GuestForge
open HostM FileTree

def Outcome.Touches (outcome : Outcome) (current location : Location) : Prop :=
  match outcome with
  | .refused _ => False
  | .ended _ _ _ files => ∃ file ∈ files, spot current file.1 = location ∨ Passes current file.1.parent location

/-- Seen from `current`, in a tree without links, a location keeps its entry, or gets a directory if it had none and is
on the way. -/
def Host.Leaves (current location : Location) (way : Prop) (before after : Host) : Prop :=
  before.location = current → before.tree.LinkFree →
    after.location = current ∧ after.tree.LinkFree ∧
      (after.tree.get? location = before.tree.get? location ∨
        way ∧ before.tree.get? location = none ∧ after.tree.get? location = some .directory)

namespace HostM
variable {α : Type} {current location : Location} {way : Prop} {path : Path} {bytes : List UInt8} {call : Call}
  {host after : Host}

theorem leaves_refl (s : Host) : Host.Leaves current location way s s := fun hcurrent free => ⟨hcurrent, free, .inl rfl⟩

theorem leaves_trans (s t u : Host) (h : Host.Leaves current location way s t)
    (h' : Host.Leaves current location way t u) : Host.Leaves current location way s u := by
  intro hcurrent free
  obtain ⟨hcurrent, free, hfirst⟩ := h hcurrent free
  obtain ⟨hcurrent, free, hrest⟩ := h' hcurrent free
  refine ⟨hcurrent, free, ?_⟩
  rcases hrest with hsame | ⟨hway, hnone, hdirectory⟩
  · rw [hsame]
    exact hfirst
  · rcases hfirst with hsame | ⟨-, -, hmade⟩
    · exact .inr ⟨hway, hsame ▸ hnone, hdirectory⟩
    · rw [hmade] at hnone
      cases hnone

theorem leaves_of_quiet {act : HostM α} (h : Quiet act) : Keeps (Host.Leaves current location way) act := by
  intro before answer after hruns
  rw [h _ _ _ hruns]
  exact leaves_refl before

theorem leaves_makeDirectories (h : Passes current path location → way) :
    Keeps (Host.Leaves current location way) (makeDirectories path) := by
  intro before answer after hruns hcurrent free
  obtain ⟨hafter, hgrows⟩ := keeps_makeDirectories path _ _ _ hruns hcurrent free
  refine ⟨by rw [hafter]; exact hcurrent, hgrows.linkFree free, (hgrows location).imp_right ?_⟩
  exact fun ⟨hpasses, hmade⟩ => ⟨h hpasses, hmade⟩

theorem leaves_setEntry {place : Location} (elsewhere : place ≠ location) (bytes : List UInt8) :
    Keeps (Host.Leaves current location way) (setEntry place (.file bytes)) := by
  intro before answer after hruns hcurrent free
  rw [(runs_setEntry.1 hruns).2]
  refine ⟨hcurrent, free.put place (some bytes), .inl ?_⟩
  rw [Host.withTree_tree, get?_set, if_neg elsewhere]

theorem leaves_opened {next : Location → HostM α} (elsewhere : spot current path ≠ location)
    (h : ∀ place, place ≠ location → Keeps (Host.Leaves current location way) (next place)) :
    Keeps (Host.Leaves current location way) (ask path FileTree.writeLocation >>= next) := by
  intro before answer after hruns hcurrent free
  rcases runs_bind.1 hruns with ⟨place, middle, hask, hnext⟩ | ⟨fault, hask, -⟩
  · obtain ⟨-, hopens, rfl⟩ := runs_ask_ok.1 hask
    have hplace := spot_of_writeLocation free hopens
    rw [hcurrent] at hplace
    exact h place (hplace ▸ elsewhere) _ _ _ hnext hcurrent free
  · rw [quiet_ask _ _ _ _ hask]
    exact ⟨hcurrent, free, .inl rfl⟩

theorem leaves_writeFile (elsewhere : spot current path ≠ location) :
    Keeps (Host.Leaves current location way) (writeFile path bytes) :=
  leaves_opened elsewhere fun _ hplace => leaves_setEntry hplace bytes

theorem leaves_appendFile (elsewhere : spot current path ≠ location) :
    Keeps (Host.Leaves current location way) (appendFile path bytes) :=
  leaves_opened elsewhere fun _ hplace =>
    Keeps.bind leaves_trans (leaves_of_quiet quiet_fileAt) fun _ => leaves_setEntry hplace _

theorem leaves_writeAt {place : Location} (elsewhere : place ≠ location) (offset : Nat) :
    Keeps (Host.Leaves current location way) (writeAt place offset bytes) :=
  Keeps.ite (Keeps.pure leaves_refl _)
    (Keeps.bind leaves_trans (leaves_of_quiet quiet_fileAt) fun _ => leaves_setEntry elsewhere _)

theorem leaves_startProcess (untouched : ∀ outcome ∈ host.outcomes.head?, ¬ outcome.Touches current location)
    {answer : Except Fault Ended} (h : Runs (startProcess call) host answer after) :
    Host.Leaves current location way host after := by
  rw [runs_startProcess] at h
  suffices hkeeps : Keeps (Host.Leaves current location way) (comesTo call host.outcomes.head?) by
    have hleaves := Keeps.ite (Keeps.throw leaves_refl _) hkeeps _ _ _ h
    exact hleaves
  match houtcome : host.outcomes.head? with
  | none => exact Keeps.throw leaves_refl _
  | some (.refused _) => exact Keeps.throw leaves_refl _
  | some (.ended _ _ _ files) =>
    have hfiles := untouched _ houtcome
    refine Keeps.bind leaves_trans (Keeps.forM leaves_trans leaves_refl fun file hfile => ?_) fun _ =>
      Keeps.pure leaves_refl _
    refine Keeps.bind leaves_trans (leaves_makeDirectories fun hpasses => ?_) fun _ => leaves_writeFile fun hspot => ?_
    · exact (hfiles ⟨file, hfile, .inr hpasses⟩).elim
    · exact hfiles ⟨file, hfile, .inl hspot⟩

end HostM

namespace External
variable {package : Package} {targetDirectory : Path} {options : GuestOptions} {command : String} {log : Path}
  {call : Call} {host after : Host} {location : Location}

theorem leaves_runLogged (untouched : ∀ outcome ∈ host.outcomes.head?, ¬ outcome.Touches host.location location)
    (elsewhere : spot host.location log ≠ location) {answer : Except Fault Ended}
    (h : Runs (runLogged log call) host answer after) :
    Host.Leaves host.location location (Passes host.location log.parent location) host after := by
  have hmade : ∀ {result made}, Runs (makeDirectories log.parent) host result made →
      Host.Leaves host.location location (Passes host.location log.parent location) host made :=
    fun hmakes => leaves_makeDirectories id _ _ _ hmakes
  rcases runLogged_runs h with ⟨fault, -, hmakes⟩ | ⟨fault, -, hmakes, -⟩ |
    ⟨made, place, hmakes, hclean, hopens, hinto⟩
  · exact hmade hmakes
  · exact hmade hmakes
  · intro hcurrent free
    -- The log is opened in the tree where its directory has been made.
    obtain ⟨hthere, hfree, -⟩ := hmade hmakes hcurrent free
    have hplace : place ≠ location := by
      rw [← spot_of_writeLocation hfree hopens, hthere]
      exact elsewhere
    have hopened : Host.Leaves host.location location (Passes host.location log.parent location) made
        (made.withTree (made.tree.set place (.file (bytesOf (logHeader call.words host.startTime))))) :=
      leaves_setEntry hplace _ _ _ _ (runs_setEntry.2 ⟨rfl, rfl⟩)
    have houtcomes : made.outcomes = host.outcomes := by
      rw [retreed_makeDirectories _ _ _ hmakes]
      rfl
    refine leaves_trans _ _ _ (leaves_trans _ _ _ (hmade hmakes) hopened) ?_ hcurrent free
    rcases runInto_runs hinto with ⟨fault, -, hprocess⟩ | ⟨ended, stopped, result, hprocess, hwrites, -⟩
    · exact leaves_startProcess (by rw [Host.withTree]; rwa [houtcomes]) hprocess
    · refine leaves_trans _ _ _ (leaves_startProcess ?_ hprocess) (leaves_writeAt hplace _ _ _ _ hwrites)
      rw [Host.withTree]
      rwa [houtcomes]

theorem leaves_builder (untouched : ∀ outcome ∈ host.outcomes.head?, ¬ outcome.Touches host.location location)
    (elsewhere : spot host.location (logPath targetDirectory package) ≠ location)
    {answer : Except Fault (List BuiltGuest)}
    (h : Runs (builder command package targetDirectory options) host answer after) :
    Host.Leaves host.location location
      (Passes host.location (logPath targetDirectory package).parent location) host after := by
  cases composed : builderCommand command package targetDirectory options with
  | error error =>
    rw [((runs_builder_unread composed).1 h).2]
    exact leaves_refl host
  | ok words =>
    rcases builder_runs composed h with ⟨fault, hlogged, -⟩ | ⟨ended, stopped, result, hlogged, happends, -⟩
    · exact leaves_runLogged untouched elsewhere hlogged
    · exact leaves_trans _ _ _ (leaves_runLogged untouched elsewhere hlogged)
        (leaves_appendFile elsewhere _ _ _ happends)

end External

section packages
open External
variable {package other : Package} {below below' : Location} {current location : Location} {targetDirectory : Path}

/-- The way to a log leads to the target directory first, and does not leave that again. -/
theorem LogAt.passes (h : LogAt package.name below)
    (hpasses : Passes current (logPath targetDirectory package).parent location) :
    Passes current targetDirectory location ∨ spot current targetDirectory <+: location := by
  obtain ⟨names, hnames, rfl⟩ := hpasses
  rw [logPath_relative h.relative] at hnames
  have hwhole := hnames.trans (List.dropLast_prefix _)
  rw [logPath_relative h.relative, Path.parent]
  rcases List.prefix_or_prefix_of_prefix hwhole (List.prefix_append _ _) with houter | ⟨more, rfl⟩
  · exact .inl ⟨names, houter, rfl⟩
  · -- What is passed behind the target directory is a part of names that never climb above it.
    obtain ⟨rest, hrest⟩ := (List.prefix_append_right_inj _).1 hwhole
    have hdescends : descend [] (more ++ rest) = some ("logs" :: below) := by
      rw [hrest]
      exact h.descends
    rw [descend_append] at hdescends
    obtain ⟨middle, hmiddle, -⟩ := Option.bind_eq_some_iff.1 hdescends
    have hspot := foldl_step_of_descend hmiddle (spot current targetDirectory)
    rw [List.append_nil] at hspot
    have hbehind : spot current ⟨targetDirectory.anchor, targetDirectory.names ++ more⟩ =
        more.foldl step (spot current targetDirectory) := List.foldl_append
    exact .inr ⟨middle, (hbehind.trans hspot).symm⟩

structure LogsApart (current : Location) (targetDirectory : Path) (package other : Package) : Prop where
  package_in : InLogs current targetDirectory (logPath targetDirectory package)
  other_in : InLogs current targetDirectory (logPath targetDirectory other)
  different : spot current (logPath targetDirectory package) ≠ spot current (logPath targetDirectory other)

theorem logsApart_iff : (∀ current targetDirectory, LogsApart current targetDirectory package other) ↔
    ∃ below below', LogAt package.name below ∧ LogAt other.name below' ∧ below ≠ below' := by
  constructor
  · intro h
    obtain ⟨below, hlog⟩ := inLogs_iff.1 fun current targetDirectory => (h current targetDirectory).package_in
    obtain ⟨below', hlog'⟩ := inLogs_iff.1 fun current targetDirectory => (h current targetDirectory).other_in
    refine ⟨below, below', hlog, hlog', fun hsame => (h [] (Path.ofString "t")).different ?_⟩
    exact (hlog.spot_eq_iff hlog' _ _).2 hsame
  · rintro ⟨below, below', hlog, hlog', hne⟩ current targetDirectory
    exact ⟨hlog.inLogs _ _, hlog'.inLogs _ _, fun hsame => hne ((hlog.spot_eq_iff hlog' _ _).1 hsame)⟩

theorem logsApart_plain (h : '/' ∉ package.name.toList) (h' : '/' ∉ other.name.toList)
    (hne : package.name ≠ other.name) : ∀ current targetDirectory, LogsApart current targetDirectory package other := by
  refine logsApart_iff.2 ⟨_, _, logAt_plain h, logAt_plain h', fun hsame => hne ?_⟩
  exact (String.append_left_inj ".log").1 (List.singleton_inj.1 hsame)

end packages

open External in
/-- The logs of two packages lie apart in the directory of logs of every target directory exactly if both names keep
them there, at different places; names without slashes do, if they are different. Such a build touches nothing but its
log, directories that it makes on the way to the target directory or inside it, and what its process touches. -/
theorem build_logs_apart_iff (package other : Package) :
    ((∀ current targetDirectory, LogsApart current targetDirectory package other) ↔
      ∃ below below', LogAt package.name below ∧ LogAt other.name below' ∧ below ≠ below') ∧
    ('/' ∉ package.name.toList → '/' ∉ other.name.toList → package.name ≠ other.name →
      ∀ current targetDirectory, LogsApart current targetDirectory package other) ∧
    ∀ below, LogAt package.name below →
      (∀ current targetDirectory,
        spot current (logPath targetDirectory package) = spot current targetDirectory ++ "logs" :: below) ∧
      ∀ command targetDirectory options host answer after, host.tree.LinkFree →
        Runs (builder command package targetDirectory options) host answer after →
        ∀ location, (∀ outcome ∈ host.outcomes.head?, ¬ outcome.Touches host.location location) →
          location ≠ spot host.location (logPath targetDirectory package) →
          after.tree.get? location = host.tree.get? location ∨
            host.tree.get? location = none ∧ after.tree.get? location = some .directory ∧
              (Passes host.location targetDirectory location ∨ spot host.location targetDirectory <+: location) := by
  refine ⟨logsApart_iff, logsApart_plain, fun below hlog => ⟨hlog.spot_eq, ?_⟩⟩
  intro command targetDirectory options host answer after free hruns location untouched elsewhere
  obtain ⟨-, -, hleaves⟩ := leaves_builder untouched elsewhere.symm hruns rfl free
  exact hleaves.imp_right fun ⟨hpasses, hnone, hdirectory⟩ => ⟨hnone, hdirectory, hlog.passes hpasses⟩

namespace Small

def named (name : String) : Package := { package with name := name }

def loggedAt (below : Location) : Host := { logged with tree := logged.tree.put ("t" :: "logs" :: below) (some [1]) }

theorem linkFree_loggedAt (below : Location) : (loggedAt below).tree.LinkFree := linkFree_logged.put _ _

theorem logAt_nested : LogAt "a/../b//c" ["b", "c.log"] := ⟨by decide +kernel, by decide +kernel⟩

theorem untouched_logs (below : Location) : ∀ outcome ∈ (loggedAt below).outcomes.head?,
    ¬ outcome.Touches (loggedAt below).location ("t" :: "logs" :: below) := by
  intro outcome houtcome
  obtain rfl := Option.some.inj houtcome
  rintro ⟨file, hfile, htouches⟩
  obtain rfl := List.mem_singleton.1 hfile
  have hwithin : "t" :: "logs" :: below <+: ["t", "b"] := by
    rcases htouches with hspot | hpasses
    · have hbinary : spot (loggedAt below).location binary = ["t", "b"] := spot_plain (by decide +kernel) _
      have hlocation : "t" :: "logs" :: below = ["t", "b"] := hspot.symm.trans hbinary
      exact ⟨[], by rw [List.append_nil, hlocation]⟩
    · exact (Passes.isPrefix (by decide +kernel) hpasses).trans (by decide +kernel)
  have hsecond := (List.cons_prefix_cons.1 (List.cons_prefix_cons.1 hwithin).2).1
  exact absurd hsecond (by decide)

end Small

open External in
theorem build_logs_apart_small :
    (∀ current targetDirectory, LogsApart current targetDirectory Small.package (Small.named "a/../b//c")) ∧
    (∀ current targetDirectory, LogsApart current targetDirectory Small.package (Small.named "q")) ∧
    ∃ after, Runs (builder "tool --quiet" Small.package Small.workspace.targetDirectory {})
        (Small.loggedAt ["b", "c.log"]) (.ok []) after ∧
      after.tree.get? ["t", "logs", "b", "c.log"] = some (.file [1]) := by
  obtain ⟨hapart, -, hbuilds⟩ := build_logs_apart_iff Small.package (Small.named "a/../b//c")
  obtain ⟨-, hplain, -⟩ := build_logs_apart_iff Small.package (Small.named "q")
  have hlog : LogAt Small.package.name ["p.log"] := logAt_plain (by decide)
  have hruns : Runs (builder "tool --quiet" Small.package Small.workspace.targetDirectory {})
      (Small.loggedAt ["b", "c.log"]) (.ok []) _ := runs_of_toOption (by decide +kernel)
  refine ⟨hapart.2 ⟨_, _, hlog, Small.logAt_nested, by decide⟩, hplain (by decide) (by decide) (by decide), _, hruns, ?_⟩
  have hthere : (Small.loggedAt ["b", "c.log"]).tree.get? ["t", "logs", "b", "c.log"] = some (.file [1]) := by
    decide +kernel
  rcases (hbuilds _ hlog).2 _ _ _ _ _ _ (Small.linkFree_loggedAt _) hruns _ (Small.untouched_logs _) (by decide +kernel) with
    hsame | ⟨hnone, -⟩
  · rw [hsame, hthere]
  · rw [hthere] at hnone
    cases hnone

open External in
/-- Names that climb out of the target directory or start at the root, and two names for one log: building the second
package destroys the log of the first. -/
theorem names_lead_logs_astray :
    ¬ InLogs [] Small.workspace.targetDirectory (logPath Small.workspace.targetDirectory (Small.named "../../x")) ∧
    ¬ InLogs [] Small.workspace.targetDirectory (logPath Small.workspace.targetDirectory (Small.named "/x")) ∧
    logPath Small.workspace.targetDirectory (Small.named "a") =
      logPath Small.workspace.targetDirectory (Small.named "./a") ∧
    (Small.loggedAt ["a.log"]).tree.get? ["t", "logs", "a.log"] = some (.file [1]) ∧
    ∃ after, Runs (builder "tool --quiet" (Small.named "./a") Small.workspace.targetDirectory {})
        (Small.loggedAt ["a.log"]) (.ok []) after ∧
      after.tree.get? ["t", "logs", "a.log"] ≠ some (.file [1]) := by
  refine ⟨by decide +kernel, by decide +kernel, by decide +kernel, by decide +kernel, _,
    runs_of_toOption (by decide +kernel), by decide +kernel⟩

end GuestForge
