import GuestForge.Proofs.Changes
import GuestForge.Proofs.MadeDirectories
import GuestForge.Proofs.Refusals
set_option autoImplicit false

/-!
# Processes and the files that they write

A process is recorded once when it is started. Its outcome changes nothing of the host but the tree, and where it writes
elsewhere a file stays as it is, within reach as before. What is written behind the end of a file leaves what was there.
-/
namespace GuestForge
open HostM

namespace FileTree
variable {tree : FileTree} {current location : Location} {path : Path}

theorem spot_of_writeLocation (free : tree.LinkFree) (h : tree.writeLocation current path = .ok location) :
    spot current path = location := by
  obtain ⟨directory, name, hreaches, rfl, -⟩ := writeLocation_eq_ok free h
  exact hreaches.location

theorem set_eq_self {entry : Entry} (h : tree.get? location = some entry) : tree.set location entry = tree := by
  ext other : 1
  rw [get?_set]
  split
  · subst_vars
    exact h.symm
  · rfl

theorem set_set (tree : FileTree) (location : Location) (entry other : Entry) :
    (tree.set location entry).set location other = tree.set location other := by
  ext place : 1
  rw [get?_set, get?_set, get?_set]
  split <;> rfl

theorem directory_written (open_ : tree.get? location ≠ some .directory) (bytes : List UInt8) {other : Location}
    (h : tree.get? other = some .directory) : (tree.set location (.file bytes)).get? other = some .directory := by
  rw [get?_set, if_neg]
  · exact h
  · rintro rfl
    exact open_ h

end FileTree

def Host.Retreed (before after : Host) : Prop := after = before.withTree after.tree

/-- Seen from `current`, in a tree without links, directories stay, and a file with these bytes stays at a location. -/
def Host.Guards (current : List Name) (location : Location) (bytes : List UInt8) (before after : Host) : Prop :=
  before.current = current → before.tree.LinkFree → before.tree.get? location = some (.file bytes) →
    after.current = current ∧ after.tree.LinkFree ∧ after.tree.get? location = some (.file bytes) ∧
      ∀ other, before.tree.get? other = some .directory → after.tree.get? other = some .directory

def Outcome.Possible (outcome : Outcome) : Prop :=
  match outcome with
  | .refused _ => True
  | .ended _ _ _ files => ∀ file ∈ files, ¬ file.1.HasNul

/-- A run that can be started writes files with names that files can have, and none at the location. -/
def Outcome.Avoids (outcome : Outcome) (current location : Location) : Prop :=
  match outcome with
  | .refused _ => True
  | .ended _ _ _ files => ∀ file ∈ files, ¬ file.1.HasNul ∧ FileTree.spot current file.1 ≠ location

theorem Outcome.Avoids.possible {outcome : Outcome} {current location : Location}
    (h : outcome.Avoids current location) : outcome.Possible := by
  cases outcome with
  | refused _ => trivial
  | ended _ _ _ files => exact fun file hfile => (h file hfile).1

namespace HostM
variable {host after : Host} {path : Path} {call : Call} {current : List Name} {location : Location}
  {bytes content : List UInt8}

theorem retreed_refl (s : Host) : Host.Retreed s s := rfl

theorem retreed_trans (s t u : Host) (h : Host.Retreed s t) (h' : Host.Retreed t u) : Host.Retreed s u := by
  unfold Host.Retreed at h h' ⊢
  rw [h', h]
  rfl

theorem retreed_of_quiet {α : Type} {act : HostM α} (h : Quiet act) : Keeps Host.Retreed act := by
  intro before answer after hruns
  rw [h _ _ _ hruns]
  exact retreed_refl before

theorem retreed_setEntry (entry : Entry) : Keeps Host.Retreed (setEntry location entry) := by
  intro before answer after h
  rw [(runs_setEntry.1 h).2]
  rfl

theorem retreed_makeDirectories : Keeps Host.Retreed (makeDirectories path) :=
  fun _ _ _ h => (extends_makeDirectories path _ _ _ h).1

theorem retreed_writeFile : Keeps Host.Retreed (writeFile path bytes) :=
  Keeps.bind retreed_trans (retreed_of_quiet (quiet_ask _)) fun _ => retreed_setEntry _

theorem quiet_fileAt : Quiet (fileAt location) := by
  refine Quiet.bind (fun before _ after h => (h.unique run_get).2) fun host => ?_
  split
  · exact Quiet.pure _
  · exact Quiet.pure _

theorem retreed_appendFile : Keeps Host.Retreed (appendFile path bytes) :=
  Keeps.bind retreed_trans (retreed_of_quiet (quiet_ask _)) fun _ =>
    Keeps.bind retreed_trans (retreed_of_quiet quiet_fileAt) fun _ => retreed_setEntry _

theorem retreed_writeAt (offset : Nat) : Keeps Host.Retreed (writeAt location offset bytes) :=
  Keeps.ite (Keeps.pure retreed_refl _)
    (Keeps.bind retreed_trans (retreed_of_quiet quiet_fileAt) fun _ => retreed_setEntry _)

theorem retreed_placeFile : Keeps Host.Retreed (placeFile path bytes) :=
  Keeps.bind retreed_trans retreed_makeDirectories fun _ => retreed_writeFile

theorem guards_refl (s : Host) : Host.Guards current location bytes s s :=
  fun hcurrent free hfile => ⟨hcurrent, free, hfile, fun _ => id⟩

theorem guards_trans (s t u : Host) (h : Host.Guards current location bytes s t)
    (h' : Host.Guards current location bytes t u) : Host.Guards current location bytes s u := by
  intro hcurrent free hfile
  obtain ⟨hcurrent, free, hfile, hstay⟩ := h hcurrent free hfile
  obtain ⟨hcurrent, free, hfile, hstay'⟩ := h' hcurrent free hfile
  exact ⟨hcurrent, free, hfile, fun other hdirectory => hstay' other (hstay other hdirectory)⟩

theorem guards_makeDirectories : Keeps (Host.Guards current location bytes) (makeDirectories path) := by
  intro before answer after h hcurrent free hfile
  obtain ⟨hafter, hgrows⟩ := extends_makeDirectories path _ _ _ h
  refine ⟨?_, hgrows.linkFree free, hgrows.stays hfile, fun other => hgrows.stays⟩
  rw [hafter]
  exact hcurrent

theorem guards_writeFile (elsewhere : FileTree.spot (current.map Name.text) path ≠ location) :
    Keeps (Host.Guards current location bytes) (writeFile path content) := by
  intro before answer after h hcurrent free hfile
  cases answer with
  | error fault =>
    rw [writeFile_error h]
    exact ⟨hcurrent, free, hfile, fun _ => id⟩
  | ok _ =>
    obtain ⟨directory, name, hreaches, hopen, rfl⟩ := writeFile_ok free h
    have hspot : directory ++ [name.text] ≠ location := by
      rw [← hreaches.reaches.location, Host.location, hcurrent]
      exact elsewhere
    refine ⟨hcurrent, free.put _ (some content), ?_, fun other => FileTree.directory_written hopen content⟩
    rw [Host.withTree_tree, FileTree.get?_set, if_neg hspot, hfile]

theorem guards_placeFile (elsewhere : FileTree.spot (current.map Name.text) path ≠ location) :
    Keeps (Host.Guards current location bytes) (placeFile path content) :=
  Keeps.bind guards_trans guards_makeDirectories fun _ => guards_writeFile elsewhere

theorem refuses_placeFile (clean : ¬ path.HasNul) : Refuses (placeFile path bytes) := by
  exact Raises.bind (refuses_makeDirectories (mt Path.hasNul_parent clean)) fun _ => refuses_writeFile clean bytes

theorem runs_startProcess {answer : Except Fault Ended} : Runs (startProcess call) host answer after ↔
    Runs (if call.HasNul then fail (.value .embeddedNul) else comesTo call host.outcomes.head?) (host.called call)
      answer after := Iff.rfl

theorem runs_startProcess_nul (nul : call.HasNul) {answer : Except Fault Ended} :
    Runs (startProcess call) host answer after ↔ answer = .error (.value .embeddedNul) ∧ after = host.called call := by
  rw [runs_startProcess, if_pos nul]
  exact runs_fail

theorem retreed_comesTo (outcome : Option Outcome) : Keeps Host.Retreed (comesTo call outcome) := by
  match outcome with
  | none => exact Keeps.throw retreed_refl _
  | some (.refused _) => exact Keeps.throw retreed_refl _
  | some (.ended _ _ _ files) =>
    exact Keeps.bind retreed_trans (Keeps.forM retreed_trans retreed_refl fun _ _ => retreed_placeFile)
      fun _ => Keeps.pure retreed_refl _

theorem startProcess_after {answer : Except Fault Ended} (h : Runs (startProcess call) host answer after) :
    after = (host.called call).withTree after.tree :=
  Keeps.ite (Keeps.throw retreed_refl _) (retreed_comesTo _) _ _ _ (runs_startProcess.1 h)

theorem startProcess_guards (avoids : ∀ outcome ∈ host.outcomes.head?, outcome.Avoids host.location location)
    {answer : Except Fault Ended} (h : Runs (startProcess call) host answer after) :
    Host.Guards host.current location bytes (host.called call) after := by
  rw [runs_startProcess] at h
  revert h
  suffices hkeeps : Keeps (Host.Guards host.current location bytes) (comesTo call host.outcomes.head?) from
    Keeps.ite (Keeps.throw guards_refl _) hkeeps _ _ _
  match houtcome : host.outcomes.head? with
  | none => exact Keeps.throw guards_refl _
  | some (.refused _) => exact Keeps.throw guards_refl _
  | some (.ended _ _ _ files) =>
    have hfiles := avoids _ houtcome
    exact Keeps.bind guards_trans (Keeps.forM guards_trans guards_refl fun file hfile =>
      guards_placeFile (hfiles file hfile).2) fun _ => Keeps.pure guards_refl _

/-- A process that cannot be started is refused by the system. -/
theorem startProcess_refuses (clean : ¬ call.HasNul)
    (possible : ∀ outcome ∈ host.outcomes.head?, outcome.Possible) {fault : Fault}
    (h : Runs (startProcess call) host (.error fault) after) : ∃ error, fault = .system error := by
  rw [runs_startProcess, if_neg clean] at h
  revert h
  suffices hrefuses : Refuses (comesTo call host.outcomes.head?) from hrefuses _ _ _
  match houtcome : host.outcomes.head? with
  | none => exact Refuses.fail _
  | some (.refused _) => exact Refuses.fail _
  | some (.ended _ _ _ files) =>
    have hfiles := possible _ houtcome
    exact Raises.bind (Raises.forM fun file hfile => refuses_placeFile (hfiles file hfile)) fun _ => Raises.pure _

section files
variable {old : List UInt8}

theorem startProcess_ended {ended : Ended} {code : Int} {output : String} {diagnostics : Option String}
    {files : List (Path × List UInt8)} (h : Runs (startProcess call) host (.ok ended) after)
    (houtcome : host.outcomes.head? = some (.ended code output diagnostics files)) :
    ended = ⟨code, output, diagnostics⟩ := by
  rw [runs_startProcess] at h
  split at h
  · cases (runs_fail.1 h).1
  · rw [houtcome] at h
    obtain ⟨_, _, -, hends⟩ := runs_bind_ok.1 h
    exact Except.ok.inj (runs_pure.1 hends).1

theorem run_fileAt (h : host.tree.get? location = some (.file old)) : Runs (fileAt location) host (.ok old) host := by
  unfold Runs fileAt
  rw [run_bind_ok run_get, h]
  rfl

theorem run_writeAt (h : host.tree.get? location = some (.file old)) (bytes : List UInt8) :
    Runs (writeAt location old.length bytes) host (.ok ())
      (host.withTree (host.tree.set location (.file (old ++ bytes)))) := by
  unfold writeAt
  split
  · rename_i hnil
    rw [hnil, List.append_nil, FileTree.set_eq_self h]
    exact runs_pure.2 ⟨rfl, rfl⟩
  · refine runs_bind_ok.2 ⟨old, host, run_fileAt h, runs_setEntry.2 ⟨rfl, ?_⟩⟩
    rw [List.take_length, Nat.sub_self, List.drop_eq_nil_of_le (Nat.le_add_right _ _)]
    simp

theorem run_appendFile (clean : ¬ path.HasNul) (opens : host.tree.writeLocation host.location path = .ok location)
    (h : host.tree.get? location = some (.file old)) (bytes : List UInt8) :
    Runs (appendFile path bytes) host (.ok ()) (host.withTree (host.tree.set location (.file (old ++ bytes)))) :=
  runs_bind_ok.2 ⟨location, host, runs_ask_ok.2 ⟨clean, opens, rfl⟩,
    runs_bind_ok.2 ⟨old, host, run_fileAt h, runs_setEntry.2 ⟨rfl, rfl⟩⟩⟩

end files

end HostM

end GuestForge
