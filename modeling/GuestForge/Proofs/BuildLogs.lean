import GuestForge.Build.External
import GuestForge.Proofs.ClearedWays
import GuestForge.Proofs.Processes
import GuestForge.Proofs.Recipes
import GuestForge.Proofs.TimeStamps
set_option autoImplicit false

/-!
# Builds with an external tool and their logs

A build starts its log anew before it starts its one process, and not at all where the log cannot be written. Without
links the log then stays the file at the place that its path names: a process that writes elsewhere leaves the header
as it is, the diagnostics go behind it, and the end of the process behind them. How the process ended decides on the
answer. Nothing else is written, apart from the directories on the way to the log.
-/
namespace GuestForge
open HostM

def Ended.answer (ended : Ended) (package : Package) (log : Path) : Except Fault (List BuiltGuest) :=
  if ended.code ≠ 0 then
    .error (.bake (.build (.exited package.name ended.code) (some package.name) (some ended.code) (some log)))
  else (parseReport ended.output (some package.name)).mapError .bake

namespace External

def notStarted (package : Package) (log : Path) (error : SystemError) : Fault :=
  .bake (.build (.notStarted package.name error) (some package.name) none (some log))

/-- What a build fails with for a fault before the end of its process: only refusals are failures of the build. -/
def failure (package : Package) (log : Path) : Fault → Fault
  | .system error => notStarted package log error
  | fault => fault

section runs
variable {package : Package} {targetDirectory : Path} {options : GuestOptions} {command : String} {words : List String}
  {log : Path} {call : Call} {host after : Host}

def runInto (location : Location) (header : List UInt8) (call : Call) : HostM Ended := do
  let ended ← startProcess call
  writeAt location header.length (bytesOf (ended.diagnostics.getD ""))
  pure ended

theorem runLogged_runs {answer : Except Fault Ended} (h : Runs (runLogged log call) host answer after) :
    (∃ fault, answer = .error fault ∧ Runs (makeDirectories log.parent) host (.error fault) after) ∨
    (∃ fault, answer = .error fault ∧ Runs (makeDirectories log.parent) host (.ok ()) after ∧
      Runs (ask log FileTree.writeLocation) after (.error fault) after) ∨
    ∃ made location, Runs (makeDirectories log.parent) host (.ok ()) made ∧ ¬ log.HasNul ∧
      made.tree.writeLocation made.location log = .ok location ∧
      Runs (runInto location (bytesOf (logHeader call.words host.startTime)) call)
        (made.withTree (made.tree.set location (.file (bytesOf (logHeader call.words host.startTime))))) answer after := by
  rcases runs_bind.1 h with ⟨_, middle, hmakes, hrest⟩ | ⟨fault, hmakes, rfl⟩
  · rcases runs_bind.1 hrest with ⟨location, made, hask, hinto⟩ | ⟨fault, hask, rfl⟩
    · obtain ⟨hclean, hopens, rfl⟩ := runs_ask_ok.1 hask
      have htime : made.startTime = host.startTime := by rw [(extends_makeDirectories _ _ _ _ hmakes).1]; rfl
      refine .inr (.inr ⟨made, location, hmakes, hclean, hopens, ?_⟩)
      rw [← htime]
      exact hinto
    · obtain rfl := quiet_ask _ _ _ _ hask
      exact .inr (.inl ⟨fault, rfl, hmakes, hask⟩)
  · exact .inl ⟨fault, rfl, hmakes⟩

theorem runInto_runs {location : Location} {header : List UInt8} {answer : Except Fault Ended}
    (h : Runs (runInto location header call) host answer after) :
    (∃ fault, answer = .error fault ∧ Runs (startProcess call) host (.error fault) after) ∨
    ∃ ended stopped result, Runs (startProcess call) host (.ok ended) stopped ∧
      Runs (writeAt location header.length (bytesOf (ended.diagnostics.getD ""))) stopped result after ∧
      answer = result.map fun _ => ended := by
  rcases runs_bind.1 h with ⟨ended, stopped, hstarts, hrest⟩ | ⟨fault, hstarts, rfl⟩
  · refine .inr ⟨ended, stopped, ?_⟩
    rcases runs_bind.1 hrest with ⟨_, last, hwrites, hpure⟩ | ⟨fault, hwrites, rfl⟩
    · obtain ⟨rfl, rfl⟩ := runs_pure.1 hpure
      exact ⟨_, hstarts, hwrites, rfl⟩
    · exact ⟨_, hstarts, hwrites, rfl⟩
  · exact .inl ⟨fault, rfl, hstarts⟩

theorem runLogged_ended {ended : Ended} {code : Int} {output : String} {diagnostics : Option String}
    {files : List (Path × List UInt8)} (h : Runs (runLogged log call) host (.ok ended) after)
    (houtcome : host.outcomes.head? = some (.ended code output diagnostics files)) :
    ended = ⟨code, output, diagnostics⟩ := by
  rcases runLogged_runs h with ⟨_, hfails, -⟩ | ⟨_, hfails, -⟩ | ⟨made, location, hmakes, -, -, hinto⟩
  · cases hfails
  · cases hfails
  · rcases runInto_runs hinto with ⟨_, hfails, -⟩ | ⟨ended, stopped, result, hprocess, -, hanswer⟩
    · cases hfails
    · have hmade : made.outcomes = host.outcomes := by rw [(extends_makeDirectories _ _ _ _ hmakes).1]; rfl
      cases result with
      | error _ => cases hanswer
      | ok _ =>
        cases hanswer
        exact startProcess_ended hprocess (hmade ▸ houtcome)

theorem runs_builder_unread {error : Text.ShellWords.Error}
    (hwords : builderCommand command package targetDirectory options = .error error)
    {answer : Except Fault (List BuiltGuest)} :
    Runs (builder command package targetDirectory options) host answer after ↔
      answer = .error (.value (.words error)) ∧ after = host := by
  apply Runs.iff
  unfold builder
  rw [hwords]
  exact runs_bind_error.2 (.inl (runs_fail.2 ⟨rfl, rfl⟩))

theorem runs_composed (hwords : builderCommand command package targetDirectory options = .ok words) :
    Runs (ofValue .words (builderCommand command package targetDirectory options)) host (.ok words) host := by
  rw [hwords]
  exact runs_pure.2 ⟨rfl, rfl⟩

/-- What runs once the log is ended. -/
def giveAnswer (package : Package) (log : Path) (ended : Ended) : HostM (List BuiltGuest) :=
  if ended.code ≠ 0 then
    fail (.bake (.build (.exited package.name ended.code) (some package.name) (some ended.code) (some log)))
  else match parseReport ended.output (some package.name) with
    | .ok guests => pure guests
    | .error error => fail (.bake error)

theorem runs_giveAnswer {ended : Ended} {answer : Except Fault (List BuiltGuest)} :
    Runs (giveAnswer package log ended) host answer after ↔ answer = ended.answer package log ∧ after = host := by
  apply Runs.iff
  unfold giveAnswer Ended.answer
  split
  · exact runs_fail.2 ⟨rfl, rfl⟩
  · cases parseReport ended.output (some package.name) with
    | ok guests => exact runs_pure.2 ⟨rfl, rfl⟩
    | error error => exact runs_fail.2 ⟨rfl, rfl⟩

/-- Refusals before the end of the process become failures of the build, and the log is ended before the answer. -/
theorem builder_runs (hwords : builderCommand command package targetDirectory options = .ok words)
    {answer : Except Fault (List BuiltGuest)}
    (h : Runs (builder command package targetDirectory options) host answer after) :
    let log := logPath targetDirectory package
    (∃ fault, Runs (runLogged log ⟨words, some package.directory⟩) host (.error fault) after ∧
      answer = .error (failure package log fault)) ∨
    ∃ ended stopped result, Runs (runLogged log ⟨words, some package.directory⟩) host (.ok ended) stopped ∧
      Runs (appendFile log (bytesOf (logTrailer ended.code stopped.endTime))) stopped result after ∧
      (result = .ok () → answer = ended.answer package log) := by
  intro log
  unfold Runs builder at h
  rw [run_bind_ok (runs_composed hwords)] at h
  rcases runs_bind.1 h with ⟨ended, stopped, hlogged, hrest⟩ | ⟨fault, hlogged, rfl⟩
  · refine .inr ⟨ended, stopped, ?_⟩
    unfold Runs at hrest
    rw [run_bind_ok run_get] at hrest
    rcases runs_bind.1 hrest with ⟨_, last, happends, hends⟩ | ⟨fault, happends, rfl⟩
    · obtain ⟨rfl, rfl⟩ := runs_giveAnswer.1 hends
      exact ⟨_, runs_orElse_fail_ok.1 hlogged, happends, fun _ => rfl⟩
    · exact ⟨_, runs_orElse_fail_ok.1 hlogged, happends, fun hok => by cases hok⟩
  · rcases runs_orElse_fail_error.1 hlogged with ⟨hfails, hother⟩ | ⟨error, hfails, rfl⟩
    · refine .inl ⟨fault, hfails, ?_⟩
      cases fault with
      | system error => exact absurd rfl (hother error)
      | _ => rfl
    · exact .inl ⟨.system error, hfails, rfl⟩

/-- The host behind the process of a build, and behind the end of its log, as they are evaluated. -/
def stoppedHost (log : Path) (call : Call) (host : Host) : Host := ((runLogged log call).run.run host).2

def loggedHost (log : Path) (call : Call) (host : Host) : Host :=
  ((appendFile log (bytesOf (logTrailer 0 (stoppedHost log call host).endTime))).run.run (stoppedHost log call host)).2

/-- Neither of the two steps to evaluate looks at the text of the report. -/
theorem runs_builder_reported {output : String} {diagnostics : Option String} {files : List (Path × List UInt8)}
    {guests : List BuiltGuest} (hwords : builderCommand command package targetDirectory options = .ok call.words)
    (hdirectory : call.directory = some package.directory)
    (outcome : host.outcomes.head? = some (.ended 0 output diagnostics files))
    (reports : parseReport output (some package.name) = .ok guests) :
    let log := logPath targetDirectory package
    ((runLogged log call).run.run host : Except Fault Ended × Host).1.toOption.isSome = true →
    ((appendFile log (bytesOf (logTrailer 0 (stoppedHost log call host).endTime))).run.run
      (stoppedHost log call host) : Except Fault Unit × Host).1.toOption = some () →
    Runs (builder command package targetDirectory options) host (.ok guests) (loggedHost log call host) := by
  intro log logs ends
  obtain ⟨ended, hlogged⟩ := runs_of_isSome logs
  obtain rfl := runLogged_ended hlogged outcome
  have hanswer : (⟨0, output, diagnostics⟩ : Ended).answer package log = .ok guests := by
    rw [Ended.answer, if_neg (not_not_intro rfl), reports]
    rfl
  obtain ⟨words, directory⟩ := call
  cases hdirectory
  refine runs_bind_ok.2 ⟨words, host, runs_composed hwords, ?_⟩
  refine runs_bind_ok.2 ⟨_, _, runs_orElse_fail_ok.2 hlogged, ?_⟩
  refine runs_bind_ok.2 ⟨_, _, run_get, runs_bind_ok.2 ⟨(), _, runs_of_toOption ends, ?_⟩⟩
  exact runs_giveAnswer.2 ⟨hanswer.symm, rfl⟩

theorem runLogged_unstarted {result : Except Fault Unit} {fault : Fault}
    (makes : Runs (makeDirectories log.parent) host result after)
    (fails : result = .error fault ∨ Runs (ask log FileTree.writeLocation) after (.error fault) after) :
    (log.HasNul ∧ fault = .value .embeddedNul) ∨
      ∃ error, fault = .system error ∧ ∀ location, after.tree.writeLocation after.location log ≠ .ok location := by
  rcases fails with rfl | hask
  · by_cases hparent : log.parent.HasNul
    · have hbalks := balks_makeDirectories hparent _ _ _ makes
      exact .inl ⟨Path.hasNul_parent hparent, Except.error.inj hbalks.1⟩
    · obtain ⟨error, rfl⟩ := refuses_makeDirectories hparent _ _ _ makes
      refine .inr ⟨error, rfl, fun location hopens => ?_⟩
      obtain ⟨directory, hthere⟩ := FileTree.writeLocation_parent hopens
      exact makeDirectories_error hparent makes directory (FileTree.status_iff.2 hthere)
  · by_cases hnul : log.HasNul
    · have hbalks := balks_ask hnul _ _ _ _ hask
      exact .inl ⟨hnul, Except.error.inj hbalks.1⟩
    · obtain ⟨error, rfl⟩ := refuses_ask hnul _ _ _ _ hask
      refine .inr ⟨error, rfl, fun location hopens => ?_⟩
      cases (hask.unique (runs_ask_ok.2 ⟨hnul, hopens, rfl⟩)).1

end runs

end External

structure Host.Logs (host : Host) (log : Path) (location : Location) (bytes : List UInt8) : Prop where
  free : host.tree.LinkFree
  clean : ¬ log.HasNul
  opens : host.tree.writeLocation host.location log = .ok location
  file : host.tree.get? location = some (.file bytes)

namespace Host.Logs
variable {host other : Host} {log : Path} {location : Location} {bytes more : List UInt8}

theorem read (h : host.Logs log location bytes) : host.tree.read host.location log = .ok bytes := by
  obtain ⟨directory, name, hreaches, rfl, -⟩ := FileTree.writeLocation_eq_ok h.free h.opens
  exact (hreaches.finds h.free).read h.file

theorem mono (h : host.Logs log location bytes) (location_eq : other.location = host.location)
    (free : other.tree.LinkFree) (file : other.tree.get? location = some (.file more))
    (stay : ∀ place, host.tree.get? place = some .directory → other.tree.get? place = some .directory) :
    other.Logs log location more := by
  obtain ⟨directory, name, hreaches, rfl, -⟩ := FileTree.writeLocation_eq_ok h.free h.opens
  refine ⟨free, h.clean, ?_, file⟩
  rw [location_eq]
  refine ((hreaches.mono stay).finds free).writeLocation ?_
  rw [file]
  simp

theorem set (h : host.Logs log location bytes) (more : List UInt8) :
    (host.withTree (host.tree.set location (.file more))).Logs log location more := by
  refine h.mono rfl (h.free.put location (some more)) ?_ fun place => FileTree.directory_written ?_ more
  · rw [Host.withTree_tree, FileTree.get?_set, if_pos rfl]
  · rw [h.file]
    simp

theorem guarded (h : host.Logs log location bytes) (guards : Host.Guards host.current location bytes host other) :
    other.Logs log location bytes := by
  obtain ⟨hcurrent, hfree, hfile, hstay⟩ := guards rfl h.free h.file
  exact h.mono (congrArg (List.map Name.text) hcurrent) hfree hfile hstay

end Host.Logs

namespace External

def logText (words : List String) (ended : Ended) (startTime endTime : String) : String :=
  logHeader words startTime ++ ended.diagnostics.getD "" ++ logTrailer ended.code endTime

/-- The directories on the way to the log are there, and the log holds the header for these words. -/
inductive LogStarts (log : Path) (words : List String) (host : Host) : Host → Prop
  | intro {made : FileTree} {location : Location}
      (grows : FileTree.Grows (FileTree.Passes host.location log.parent) host.tree made)
      (opens : made.writeLocation host.location log = .ok location) :
      LogStarts log words host (host.withTree (made.set location (.file (bytesOf (logHeader words host.startTime)))))

section ends
variable {package : Package} {targetDirectory : Path} {options : GuestOptions} {command : String} {words : List String}
  {log : Path} {call : Call} {host after : Host}

theorem runLogged_unlogged (clean : ¬ log.HasNul) (free : host.tree.LinkFree) {result : Except Fault Unit}
    {fault : Fault} (makes : Runs (makeDirectories log.parent) host result after)
    (fails : result = .error fault ∨ Runs (ask log FileTree.writeLocation) after (.error fault) after) :
    ∃ error made, fault = .system error ∧ FileTree.Grows (FileTree.Passes host.location log.parent) host.tree made ∧
      (∀ location, made.writeLocation host.location log ≠ .ok location) ∧ after = host.withTree made := by
  obtain ⟨hafter, hgrows⟩ := keeps_makeDirectories _ _ _ _ makes rfl free
  have hlocation : after.location = host.location := by rw [hafter]; rfl
  rcases runLogged_unstarted makes fails with ⟨hnul, -⟩ | ⟨error, rfl, hblocked⟩
  · exact absurd hnul clean
  · rw [hlocation] at hblocked
    exact ⟨error, after.tree, rfl, hgrows, hblocked, hafter⟩

theorem LogStarts.logs {started : Host} (h : LogStarts log words host started) (clean : ¬ log.HasNul)
    (free : host.tree.LinkFree) :
    started = host.withTree started.tree ∧
      started.Logs log (FileTree.spot host.location log) (bytesOf (logHeader words host.startTime)) := by
  obtain ⟨hgrows, hopens⟩ := h
  rename_i made location
  have hfree : made.LinkFree := hgrows.linkFree free
  obtain ⟨directory, name, hreaches, rfl, hopen⟩ := FileTree.writeLocation_eq_ok hfree hopens
  have hreaches' := hreaches.mono fun place =>
    FileTree.directory_written hopen (bytesOf (logHeader words host.startTime))
  rw [hreaches.location]
  refine ⟨rfl, hfree.put _ (some _), clean, (hreaches'.finds (hfree.put _ (some _))).writeLocation ?_, ?_⟩
  · rw [FileTree.get?_set, if_pos rfl]
    simp
  · rw [Host.withTree_tree, FileTree.get?_set, if_pos rfl]

/-- A process leaves its log as it is, if it writes elsewhere; the system says why it cannot be started, if its call
can be passed on to that. -/
theorem LogStarts.stands {started stopped : Host} (h : LogStarts log call.words host started) (clean : ¬ log.HasNul)
    (free : host.tree.LinkFree)
    (avoids : ∀ outcome ∈ host.outcomes.head?, outcome.Avoids host.location (FileTree.spot host.location log))
    {result : Except Fault Ended} (process : Runs (startProcess call) started result stopped) :
    stopped = (host.called call).withTree stopped.tree ∧
      stopped.Logs log (FileTree.spot host.location log) (bytesOf (logHeader call.words host.startTime)) ∧
      (¬ call.HasNul → ∀ fault, result = .error fault → ∃ error, fault = .system error) := by
  obtain ⟨hstarted, hlogs⟩ := h.logs clean free
  have havoids : ∀ outcome ∈ started.outcomes.head?,
      outcome.Avoids started.location (FileTree.spot host.location log) := by
    rw [hstarted]
    exact avoids
  refine ⟨?_, hlogs.guarded (startProcess_guards havoids process), ?_⟩
  · rw [startProcess_after process, hstarted]
    rfl
  · rintro passable fault rfl
    exact startProcess_refuses passable (fun outcome houtcome => (havoids outcome houtcome).possible) process

theorem runLogged_ends (clean : ¬ log.HasNul) (free : host.tree.LinkFree)
    (avoids : ∀ outcome ∈ host.outcomes.head?, outcome.Avoids host.location (FileTree.spot host.location log))
    {answer : Except Fault Ended} (h : Runs (runLogged log call) host answer after) :
    (∃ error made, answer = .error (.system error) ∧
      FileTree.Grows (FileTree.Passes host.location log.parent) host.tree made ∧
      (∀ location, made.writeLocation host.location log ≠ .ok location) ∧ after = host.withTree made) ∨
    ∃ started stopped, LogStarts log call.words host started ∧ Runs (startProcess call) started answer stopped ∧
      ((∃ fault, answer = .error fault ∧ after = stopped) ∨
        ∃ ended, answer = .ok ended ∧
          after = stopped.withTree (stopped.tree.set (FileTree.spot host.location log) (.file
            (bytesOf (logHeader call.words host.startTime) ++ bytesOf (ended.diagnostics.getD ""))))) := by
  rcases runLogged_runs h with ⟨fault, rfl, hmakes⟩ | ⟨fault, rfl, hmakes, hask⟩ |
    ⟨made, location, hmakes, -, hopens, hinto⟩
  · obtain ⟨error, made, rfl, hblocked⟩ := runLogged_unlogged clean free hmakes (.inl rfl)
    exact .inl ⟨error, made, rfl, hblocked⟩
  · obtain ⟨error, made, rfl, hblocked⟩ := runLogged_unlogged clean free hmakes (.inr hask)
    exact .inl ⟨error, made, rfl, hblocked⟩
  · right
    obtain ⟨hmade, hgrows⟩ := keeps_makeDirectories _ _ _ _ hmakes rfl free
    rw [hmade] at hopens hinto
    obtain rfl := FileTree.spot_of_writeLocation (hgrows.linkFree free) hopens
    have hstarts : LogStarts log call.words host _ := .intro hgrows hopens
    rcases runInto_runs hinto with ⟨fault, rfl, hprocess⟩ | ⟨ended, stopped, result, hprocess, hwrites, rfl⟩
    · exact ⟨_, after, hstarts, hprocess, .inl ⟨fault, rfl, rfl⟩⟩
    · obtain ⟨-, hlogs, -⟩ := hstarts.stands clean free avoids hprocess
      obtain ⟨rfl, rfl⟩ := hwrites.unique (run_writeAt hlogs.file _)
      exact ⟨_, stopped, hstarts, hprocess, .inr ⟨ended, rfl, rfl⟩⟩

/-- Where the process is started, the log holds the header before it, and in the end the header alone or all that a log
is to hold. -/
theorem builder_stages (hwords : builderCommand command package targetDirectory options = .ok words)
    (clean : ¬ (logPath targetDirectory package).HasNul) (free : host.tree.LinkFree)
    (avoids : ∀ outcome ∈ host.outcomes.head?,
      outcome.Avoids host.location (FileTree.spot host.location (logPath targetDirectory package)))
    {answer : Except Fault (List BuiltGuest)}
    (h : Runs (builder command package targetDirectory options) host answer after) :
    let log := logPath targetDirectory package
    let call : Call := ⟨words, some package.directory⟩
    (∃ error made, answer = .error (notStarted package log error) ∧
      FileTree.Grows (FileTree.Passes host.location log.parent) host.tree made ∧
      (∀ location, made.writeLocation host.location log ≠ .ok location) ∧ after = host.withTree made) ∨
    ∃ started result stopped, LogStarts log words host started ∧ Runs (startProcess call) started result stopped ∧
      after.calls = host.calls ++ [call] ∧
      ((∃ fault, result = .error fault ∧ answer = .error (failure package log fault) ∧ after = stopped ∧
          (¬ call.HasNul → ∃ error, fault = .system error) ∧
          after.tree.read after.location log = .ok (bytesOf (logHeader words host.startTime))) ∨
        ∃ ended, result = .ok ended ∧ answer = ended.answer package log ∧
          after = stopped.withTree (stopped.tree.set (FileTree.spot host.location log)
            (.file (bytesOf (logText words ended host.startTime stopped.endTime)))) ∧
          after.tree.read after.location log =
            .ok (bytesOf (logText words ended host.startTime stopped.endTime))) := by
  intro log call
  rcases builder_runs hwords h with ⟨fault, hlogged, rfl⟩ | ⟨ended, middle, result, hlogged, happends, hanswer⟩
  · rcases runLogged_ends clean free avoids hlogged with ⟨error, made, hfault, hgrows, hblocked, rfl⟩ |
      ⟨started, stopped, hstarts, hprocess, ⟨_, -, rfl⟩ | ⟨ended, hfault, -⟩⟩
    · cases hfault
      exact .inl ⟨error, made, rfl, hgrows, hblocked, rfl⟩
    · obtain ⟨hstopped, hlogs, hrefuses⟩ := hstarts.stands clean free avoids hprocess
      refine .inr ⟨started, _, after, hstarts, hprocess, ?_, .inl ⟨fault, rfl, rfl, rfl, ?_, hlogs.read⟩⟩
      · rw [hstopped]
        rfl
      · exact fun passable => hrefuses passable fault rfl
    · cases hfault
  · rcases runLogged_ends clean free avoids hlogged with ⟨error, made, hended, -⟩ |
      ⟨started, stopped, hstarts, hprocess, ⟨fault, hended, -⟩ | ⟨other, hended, rfl⟩⟩
    · cases hended
    · cases hended
    · cases hended
      obtain ⟨hstopped, hlogs, -⟩ := hstarts.stands clean free avoids hprocess
      have hwritten := hlogs.set (bytesOf (logHeader words host.startTime) ++ bytesOf (ended.diagnostics.getD ""))
      obtain ⟨rfl, rfl⟩ := happends.unique (run_appendFile clean hwritten.opens hwritten.file _)
      have htext : bytesOf (logHeader words host.startTime) ++ bytesOf (ended.diagnostics.getD "") ++
          bytesOf (logTrailer ended.code stopped.endTime) =
          bytesOf (logText words ended host.startTime stopped.endTime) := by
        rw [logText, bytesOf_append, bytesOf_append]
      refine .inr ⟨started, _, stopped, hstarts, hprocess, ?_, .inr ⟨ended, rfl, hanswer rfl, ?_, ?_⟩⟩
      · rw [hstopped]
        rfl
      · rw [← htext]
        exact congrArg stopped.withTree (FileTree.set_set _ _ _ _)
      · rw [← htext]
        exact (hwritten.set _).read

/-- A process that is given a NUL character leaves a log with the header only, and a value error that is no failure of
the build. -/
theorem builder_impassable (hwords : builderCommand command package targetDirectory options = .ok words)
    (nul : (⟨words, some package.directory⟩ : Call).HasNul)
    (clean : ¬ (logPath targetDirectory package).HasNul) (free : host.tree.LinkFree)
    (avoids : ∀ outcome ∈ host.outcomes.head?,
      outcome.Avoids host.location (FileTree.spot host.location (logPath targetDirectory package)))
    {answer : Except Fault (List BuiltGuest)}
    (h : Runs (builder command package targetDirectory options) host answer after) :
    (∃ error made, answer = .error (notStarted package (logPath targetDirectory package) error) ∧
      (∀ location, made.writeLocation host.location (logPath targetDirectory package) ≠ .ok location) ∧
      after = host.withTree made) ∨
    answer = .error (.value .embeddedNul) ∧ after.calls = host.calls ++ [⟨words, some package.directory⟩] ∧
      after.tree.read after.location (logPath targetDirectory package) =
        .ok (bytesOf (logHeader words host.startTime)) := by
  rcases builder_stages hwords clean free avoids h with ⟨error, made, rfl, -, hblocked, rfl⟩ |
    ⟨started, _, stopped, -, hprocess, hcalls, ⟨fault, rfl, rfl, rfl, -, hread⟩ | ⟨ended, rfl, -⟩⟩
  · exact .inl ⟨error, made, rfl, hblocked, rfl⟩
  · cases ((runs_startProcess_nul nul).1 hprocess).1
    exact .inr ⟨rfl, hcalls, hread⟩
  · cases ((runs_startProcess_nul nul).1 hprocess).1

end ends

end External

namespace Small

def shelved : Host := fresh.withTree ((fresh.tree.set ["t"] .directory).set ["t", "logs"] .directory)

theorem linkFree_shelved : shelved.tree.LinkFree := by
  intro location target
  simp only [shelved, Host.withTree_tree, FileTree.get?_set]
  repeat' split
  · simp
  · simp
  · exact linkFree_fresh location target

def logged : Host :=
  { shelved with
    tree := shelved.tree.put ["t", "logs", "p.log"] (some (List.replicate 1000 0))
    outcomes := [.ended 0 "[]" (some "note") [(binary, [7])]] }

theorem linkFree_logged : logged.tree.LinkFree := linkFree_shelved.put _ _

theorem clean_log : ¬ (External.logPath workspace.targetDirectory package).HasNul := by decide +kernel

theorem avoids_log : ∀ outcome ∈ logged.outcomes.head?, outcome.Avoids logged.location
    (FileTree.spot logged.location (External.logPath workspace.targetDirectory package)) := by
  intro outcome houtcome
  obtain rfl := Option.some.inj houtcome
  intro file hfile
  obtain rfl := List.mem_singleton.1 hfile
  exact ⟨by decide +kernel, by decide +kernel⟩

end Small

end GuestForge
