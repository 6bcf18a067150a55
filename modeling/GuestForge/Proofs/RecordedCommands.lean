import GuestForge.Proofs.BuildLogs
import GuestForge.Proofs.CommandForms
set_option autoImplicit false

/-!
# Command lines that are read back

Reading what was written for a list of words gives the words back, whatever characters they hold. A quoted word leaves
its quotes only for a single quote of its own, and comes back into them behind it; a word that is not quoted has
nothing in it that a reader would take for more than itself. So the command that a log records is the one that runs,
and a configured command can be replaced by its words written anew.
-/
namespace GuestForge.Text.ShellWords

theorem meaningless_of_isPlain {c : Char} (h : isPlain c = true) :
    isBlank c = false ∧ c ≠ '\'' ∧ c ≠ '"' ∧ c ≠ '\\' := by
  have hne : ∀ other, isPlain other = false → c ≠ other := by
    rintro other hother rfl
    rw [h] at hother
    cases hother
  refine ⟨?_, hne '\'' rfl, hne '"' rfl, hne '\\' rfl⟩
  simp only [isBlank, Bool.or_eq_false_iff, beq_eq_false_iff_ne]
  exact ⟨⟨⟨hne ' ' rfl, hne '\t' rfl⟩, hne '\r' rfl⟩, hne '\n' rfl⟩

theorem splitFrom_bare {c : Char} (h : isPlain c = true) (word rest : List Char) :
    splitFrom .bare word (c :: rest) = splitFrom .bare (word ++ [c]) rest := by
  obtain ⟨hblank, hsingle, hdouble, hescape⟩ := meaningless_of_isPlain h
  simp [splitFrom, hblank, hsingle, hdouble, hescape]

theorem splitFrom_between {c : Char} (h : isPlain c = true) (rest : List Char) :
    splitFrom .between [] (c :: rest) = splitFrom .bare [c] rest := by
  obtain ⟨hblank, hsingle, hdouble, hescape⟩ := meaningless_of_isPlain h
  simp [splitFrom, hblank, hsingle, hdouble, hescape]

theorem splitFrom_plain {plain : List Char} (h : ∀ c ∈ plain, isPlain c = true) (word rest : List Char) :
    splitFrom .bare word (plain ++ rest) = splitFrom .bare (word ++ plain) rest := by
  induction plain generalizing word with
  | nil => rw [List.nil_append, List.append_nil]
  | cons c others ih =>
    rw [List.cons_append, splitFrom_bare (h c List.mem_cons_self),
      ih (fun other hother => h other (List.mem_cons_of_mem _ hother)), List.append_assoc]
    rfl

/-- Behind the quote that closes a word the reader goes on with the whole of it. -/
theorem splitFrom_quoteInside (inside word rest : List Char) :
    splitFrom .single word (quoteInside inside ++ '\'' :: rest) = splitFrom .bare (word ++ inside) rest := by
  induction inside generalizing word with
  | nil => rw [List.append_nil]; rfl
  | cons c others ih =>
    by_cases hquote : c = '\''
    · -- The quote leaves the quotes, stands between double ones, and enters them again.
      subst hquote
      have hreads : splitFrom .single word (quoteInside ('\'' :: others) ++ '\'' :: rest) =
          splitFrom .single (word ++ ['\'']) (quoteInside others ++ '\'' :: rest) := rfl
      rw [hreads, ih, List.append_assoc]
      rfl
    · have hreads : splitFrom .single word (quoteInside (c :: others) ++ '\'' :: rest) =
          splitFrom .single (word ++ [c]) (quoteInside others ++ '\'' :: rest) := by
        simp [quoteInside, splitFrom, hquote]
      rw [hreads, ih, List.append_assoc]
      rfl

/-- Between words, a reader of a written word is behind it in the end, with the whole of it read. -/
theorem splitFrom_quote (word rest : List Char) :
    splitFrom .between [] (quote word ++ rest) = splitFrom .bare word rest := by
  unfold quote
  split
  · rename_i hplain
    obtain ⟨hnonempty, hall⟩ := hplain
    obtain ⟨c, others, rfl⟩ := List.exists_cons_of_ne_nil hnonempty
    have hplain : ∀ other ∈ c :: others, isPlain other = true := List.all_eq_true.1 hall
    rw [List.cons_append, splitFrom_between (hplain c List.mem_cons_self),
      splitFrom_plain fun other hother => hplain other (List.mem_cons_of_mem _ hother)]
    rfl
  · change splitFrom .single [] ((quoteInside word ++ ['\'']) ++ rest) = _
    rw [List.append_assoc]
    exact splitFrom_quoteInside word [] rest

theorem splitFrom_joinWords (words : List (List Char)) : splitFrom .between [] (joinWords words) = .ok words := by
  induction words with
  | nil => rfl
  | cons word others ih =>
    cases others with
    | nil =>
      have hreads := splitFrom_quote word []
      rw [List.append_nil] at hreads
      exact hreads
    | cons next others =>
      change splitFrom .between [] (quote word ++ ' ' :: joinWords (next :: others)) = _
      rw [splitFrom_quote]
      change (splitFrom .between [] (joinWords (next :: others))).map (word :: ·) = _
      rw [ih]
      rfl

/-- Reading undoes writing. -/
theorem split_join (words : List String) : split (join words) = .ok words := by
  have hid : String.ofList ∘ String.toList = id := funext fun _ => String.ofList_toList
  rw [split, join, String.toList_ofList, splitFrom_joinWords]
  change Except.ok ((words.map String.toList).map String.ofList) = _
  rw [List.map_map, hid, List.map_id]

end GuestForge.Text.ShellWords

namespace GuestForge
open HostM External Text.ShellWords

section commands
variable {command : String} {words : List String}

theorem builderCommand_eq (h : split command = .ok words) (package : Package) (targetDirectory : Path)
    (options : GuestOptions) : ∃ arguments,
      builderCommand command package targetDirectory options = .ok (words ++ "build" :: arguments) :=
  ⟨_, builderCommand_words h package targetDirectory options⟩

theorem metadataCommand_eq (h : split command = .ok words) (manifest : Option Path)
    (configuration : Option Configuration) : ∃ arguments,
      metadataCommand command manifest configuration = .ok (words ++ "metadata" :: arguments) :=
  ⟨_, metadataCommand_words h manifest configuration⟩

theorem builderCommand_join (h : split command = .ok words) (package : Package) (targetDirectory : Path)
    (options : GuestOptions) : builderCommand (join words) package targetDirectory options =
      builderCommand command package targetDirectory options := by
  rw [builderCommand_words (split_join words), builderCommand_words h]

theorem metadataCommand_join (h : split command = .ok words) (manifest : Option Path)
    (configuration : Option Configuration) :
    metadataCommand (join words) manifest configuration = metadataCommand command manifest configuration := by
  rw [metadataCommand_words (split_join words), metadataCommand_words h]

end commands

def Host.Begins (host : Host) (location : Location) (header : List UInt8) : Prop :=
  ∃ rest, host.tree.get? location = some (.file (header ++ rest))

/-- Without its log a build starts nothing. It fails on a NUL character in the path, or because the log cannot be
opened even with the directories that were made for it. -/
structure Unrecorded (package : Package) (log : Path) (host : Host) (answer : Except Fault (List BuiltGuest))
    (after : Host) : Prop where
  calls : after.calls = host.calls
  fails : log.HasNul ∧ answer = .error (.value .embeddedNul) ∨
    ∃ error, answer = .error (notStarted package log error) ∧
      ∀ location, after.tree.writeLocation after.location log ≠ .ok location

/-- A build makes the directories for its log, writes the header into the file that opens there, and starts the process
then. What it writes to the log after that goes behind the header, unless the process took that away. -/
inductive Recorded (log : Path) (header : List UInt8) (call : Call) (host after : Host) : Prop
  | intro {made started stopped : Host} {location : Location} {result : Except Fault Ended}
      (makes : Runs (makeDirectories log.parent) host (.ok ()) made)
      (opens : made.tree.writeLocation made.location log = .ok location)
      (starts : started = made.withTree (made.tree.set location (.file header)))
      (reads : started.tree.read started.location log = .ok header)
      (process : Runs (startProcess call) started result stopped)
      (calls : after.calls = host.calls ++ [call])
      (stays : stopped.Begins location header → after.Begins location header)

section records
variable {host after : Host} {log : Path} {call : Call} {location : Location} {header bytes : List UInt8}

theorem begins_writeAt : Keeps (fun before after : Host => before.Begins location header → after.Begins location header)
    (writeAt location header.length bytes) := by
  refine Keeps.ite (Keeps.pure (fun _ => id) _) ?_
  rintro before answer after hruns ⟨rest, hfile⟩
  obtain ⟨hanswer, rfl⟩ := runs_bind.2 (.inl ⟨_, before, run_fileAt hfile, runs_setEntry.2 ⟨rfl, rfl⟩⟩) |>.unique hruns
  refine ⟨bytes ++ (header ++ rest).drop (header.length + bytes.length), ?_⟩
  rw [Host.withTree_tree, FileTree.get?_set, if_pos rfl, List.take_left, Nat.sub_eq_zero_of_le]
  · simp
  · simp

theorem begins_appendFile :
    Keeps (fun before after : Host => before.Begins location header → after.Begins location header)
      (appendFile log bytes) := by
  rintro before answer after hruns ⟨rest, hfile⟩
  rcases runs_bind.1 hruns with ⟨place, middle, hask, hwrites⟩ | ⟨fault, hask, -⟩
  · obtain rfl := quiet_ask _ _ _ _ hask
    rcases runs_bind.1 hwrites with ⟨old, same, hold, hsets⟩ | ⟨fault, hold, -⟩
    · obtain rfl := quiet_fileAt _ _ _ hold
      rw [(runs_setEntry.1 hsets).2]
      by_cases hplace : place = location
      · subst hplace
        cases (hold.unique (run_fileAt hfile)).1
        refine ⟨rest ++ bytes, ?_⟩
        rw [Host.withTree_tree, FileTree.get?_set, if_pos rfl, List.append_assoc]
      · exact ⟨rest, by rw [Host.withTree_tree, FileTree.get?_set, if_neg hplace, hfile]⟩
    · rw [quiet_fileAt _ _ _ hold]
      exact ⟨rest, hfile⟩
  · rw [quiet_ask _ _ _ _ hask]
    exact ⟨rest, hfile⟩

theorem runInto_records {answer : Except Fault Ended} (h : Runs (runInto location header call) host answer after) :
    after.calls = host.calls ++ [call] ∧ ∃ result stopped, Runs (startProcess call) host result stopped ∧
      (stopped.Begins location header → after.Begins location header) := by
  rcases runInto_runs h with ⟨fault, -, hprocess⟩ | ⟨ended, stopped, result, hprocess, hwrites, -⟩
  · refine ⟨?_, _, after, hprocess, id⟩
    rw [startProcess_after hprocess]
    rfl
  · refine ⟨?_, _, stopped, hprocess, begins_writeAt _ _ _ hwrites⟩
    rw [retreed_writeAt _ _ _ _ hwrites, startProcess_after hprocess]
    rfl

/-- A process is started when its log holds the header, and no other way. -/
theorem runLogged_records {answer : Except Fault Ended} (h : Runs (runLogged log call) host answer after) :
    (∃ fault, answer = .error fault ∧ after.calls = host.calls ∧
      (log.HasNul ∧ fault = .value .embeddedNul ∨
        ∃ error, fault = .system error ∧ ∀ location, after.tree.writeLocation after.location log ≠ .ok location)) ∨
    Recorded log (bytesOf (logHeader call.words host.startTime)) call host after := by
  have hmade : ∀ {result made}, Runs (makeDirectories log.parent) host result made → made.calls = host.calls := by
    intro result made hmakes
    rw [retreed_makeDirectories _ _ _ hmakes]
    rfl
  rcases runLogged_runs h with ⟨fault, rfl, hmakes⟩ | ⟨fault, rfl, hmakes, hask⟩ |
    ⟨made, location, hmakes, hclean, hopens, hinto⟩
  · exact .inl ⟨fault, rfl, hmade hmakes, runLogged_unstarted hmakes (.inl rfl)⟩
  · exact .inl ⟨fault, rfl, hmade hmakes, runLogged_unstarted hmakes (.inr hask)⟩
  · obtain ⟨hcalls, result, stopped, hprocess, hstays⟩ := runInto_records hinto
    have hwrites : Runs (writeFile log (bytesOf (logHeader call.words host.startTime))) made (.ok ()) _ :=
      runs_bind_ok.2 ⟨location, made, runs_ask_ok.2 ⟨hclean, hopens, rfl⟩, runs_setEntry.2 ⟨rfl, rfl⟩⟩
    have hcalls' : after.calls = host.calls ++ [call] := by
      rw [hcalls, ← hmade hmakes]
      rfl
    exact .inr (.intro hmakes hopens rfl (writeFile_reads hwrites) hprocess hcalls' hstays)

/-- A build records the start of its process in the log, or fails for want of that. -/
theorem builder_records {package : Package} {targetDirectory : Path} {options : GuestOptions} {command : String}
    {words : List String} (composed : builderCommand command package targetDirectory options = .ok words)
    {answer : Except Fault (List BuiltGuest)}
    (h : Runs (builder command package targetDirectory options) host answer after) :
    Unrecorded package (logPath targetDirectory package) host answer after ∨
      Recorded (logPath targetDirectory package) (bytesOf (logHeader words host.startTime))
        ⟨words, some package.directory⟩ host after := by
  rcases builder_runs composed h with ⟨fault, hlogged, rfl⟩ | ⟨ended, stopped, result, hlogged, happends, -⟩
  · refine (runLogged_records hlogged).imp_left ?_
    rintro ⟨_, hfault, hcalls, hfails⟩
    cases hfault
    refine ⟨hcalls, hfails.imp ?_ ?_⟩
    · rintro ⟨hnul, rfl⟩
      exact ⟨hnul, rfl⟩
    · rintro ⟨error, rfl, hblocked⟩
      exact ⟨error, rfl, hblocked⟩
  · rcases runLogged_records hlogged with ⟨fault, hended, -⟩ | ⟨hmakes, hopens, hstarts, hreads, hprocess, hcalls, hstays⟩
    · cases hended
    · refine .inr (.intro hmakes hopens hstarts hreads hprocess ?_ fun hbegins =>
        begins_appendFile _ _ _ happends (hstays hbegins))
      rw [retreed_appendFile _ _ _ happends]
      exact hcalls

end records

section reading
variable {command : String} {words : List String}

/-- Reading the command that a build records in its log gives the words of the process that it starts, which begin with
those of the configured command; a build that cannot open its log starts none. Words written as a command are read as
they were, so that configuring them gives the same calls. -/
theorem recorded_command_reads_back (h : split command = .ok words) (package : Package) (targetDirectory : Path)
    (options : GuestOptions) :
    (∃ call, builderCommand command package targetDirectory options = .ok call ∧ split (join call) = .ok call ∧
      (∃ arguments, call = words ++ "build" :: arguments) ∧
      ∀ host answer after, Runs (builder command package targetDirectory options) host answer after →
        Unrecorded package (logPath targetDirectory package) host answer after ∨
          Recorded (logPath targetDirectory package) (bytesOf ("# Command: " ++ join call ++ "\n# Started: " ++
            host.startTime ++ "\n# " ++ String.ofList (List.replicate 70 '=') ++ "\n\n"))
            ⟨call, some package.directory⟩ host after) ∧
    (∀ others, ∃ arguments,
      builderCommand (join others) package targetDirectory options = .ok (others ++ "build" :: arguments)) ∧
    (∀ others manifest configuration, ∃ arguments,
      metadataCommand (join others) manifest configuration = .ok (others ++ "metadata" :: arguments)) ∧
    builderCommand (join words) package targetDirectory options =
      builderCommand command package targetDirectory options ∧
    ∀ manifest configuration,
      metadataCommand (join words) manifest configuration = metadataCommand command manifest configuration := by
  refine ⟨?_, fun others => builderCommand_eq (split_join others) _ _ _,
    fun others => metadataCommand_eq (split_join others), builderCommand_join h _ _ _, metadataCommand_join h⟩
  obtain ⟨arguments, hcommand⟩ := builderCommand_eq h package targetDirectory options
  exact ⟨_, hcommand, split_join _, ⟨arguments, rfl⟩, fun host answer after => builder_records hcommand⟩

end reading

namespace Small

def quoted : String := "'my tool' \"it's\" \\  ''"

theorem split_quoted : split quoted = .ok ["my tool", "it's", " ", ""] := by decide +kernel

theorem begins_logged (call : Call) {after : Host} (h : Recorded (logPath workspace.targetDirectory package)
    (bytesOf (logHeader call.words logged.startTime)) call logged after) :
    after.Begins ["t", "logs", "p.log"] (bytesOf (logHeader call.words logged.startTime)) := by
  obtain ⟨hmakes, hopens, rfl, -, hprocess, -, hstays⟩ := h
  obtain ⟨hmade, hgrows⟩ := keeps_makeDirectories _ _ _ _ hmakes rfl linkFree_logged
  rw [hmade] at hopens hprocess
  obtain rfl := FileTree.spot_of_writeLocation (hgrows.linkFree linkFree_logged) hopens
  obtain ⟨-, hlogs, -⟩ := (LogStarts.intro hgrows hopens).stands clean_log linkFree_logged avoids_log hprocess
  have hplace : FileTree.spot logged.location (logPath workspace.targetDirectory package) = ["t", "logs", "p.log"] := by
    decide +kernel
  rw [← hplace]
  exact hstays ⟨[], by rw [List.append_nil]; exact hlogs.file⟩

end Small

theorem recorded_command_reads_back_quoted : ∃ words call after,
    split Small.quoted = .ok words ∧ words = ["my tool", "it's", " ", ""] ∧
    builderCommand Small.quoted Small.package Small.workspace.targetDirectory {} = .ok call ∧
    builderCommand (join words) Small.package Small.workspace.targetDirectory {} = .ok call ∧
    split (join call) = .ok call ∧
    Runs (builder Small.quoted Small.package Small.workspace.targetDirectory {}) Small.logged (.ok []) after ∧
    after.calls = [⟨call, some Small.package.directory⟩] ∧
    after.Begins ["t", "logs", "p.log"] (bytesOf (logHeader call Small.logged.startTime)) := by
  obtain ⟨⟨call, hcommand, hreads, -, hrecords⟩, -, -, hjoin, -⟩ :=
    recorded_command_reads_back Small.split_quoted Small.package Small.workspace.targetDirectory {}
  obtain ⟨after, hruns⟩ : ∃ after,
      Runs (builder Small.quoted Small.package Small.workspace.targetDirectory {}) Small.logged (.ok []) after :=
    ⟨_, runs_of_toOption (by decide +kernel)⟩
  refine ⟨_, call, after, Small.split_quoted, rfl, hcommand, hjoin.trans hcommand, hreads, hruns, ?_⟩
  rcases hrecords _ _ _ hruns with ⟨-, ⟨-, hfails⟩ | ⟨error, hfails, -⟩⟩ | hrecorded
  · cases hfails
  · cases hfails
  · have hbegins := Small.begins_logged ⟨call, some Small.package.directory⟩ hrecorded
    obtain ⟨-, -, -, -, -, hcalls, -⟩ := hrecorded
    exact ⟨hcalls, hbegins⟩

end GuestForge
