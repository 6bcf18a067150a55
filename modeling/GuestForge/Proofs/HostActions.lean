import GuestForge.Proofs.LinkedPaths
import GuestForge.Proofs.Runs
set_option autoImplicit false

/-!
# File operations on a host

What the operations of a host come to: when they succeed, what they change then, and that they change nothing, or only
add directories, when they fail. In a tree without links it is known beforehand where.
-/
namespace GuestForge

def Host.withTree (host : Host) (tree : FileTree) : Host := { host with tree := tree }

@[simp] theorem Host.withTree_tree (host : Host) (tree : FileTree) : (host.withTree tree).tree = tree := rfl

@[simp] theorem Host.withTree_location (host : Host) (tree : FileTree) :
    (host.withTree tree).location = host.location := rfl

/-- A path without a NUL character whose last name can have an entry in `directory`. -/
structure Host.Reaches (host : Host) (path : Path) (directory : Location) (name : Name) : Prop where
  clean : '\x00' ∉ path.toString.toList
  reaches : host.tree.Reaches host.location path directory name

theorem Host.Reaches.mono {host other : Host} {path : Path} {directory : Location} {name : Name}
    (h : host.Reaches path directory name) (location : other.location = host.location)
    (stay : ∀ location, host.tree.get? location = some .directory → other.tree.get? location = some .directory) :
    other.Reaches path directory name := by
  refine ⟨h.clean, ?_⟩
  rw [location]
  exact h.reaches.mono stay

/-- A path without a NUL character that leads to an entry in `directory`, and to no link. -/
structure Host.Finds (host : Host) (path : Path) (directory : Location) (name : Name) : Prop where
  clean : '\x00' ∉ path.toString.toList
  finds : host.tree.Finds host.location path directory name

theorem Host.Reaches.finds {host : Host} {path : Path} {directory : Location} {name : Name}
    (h : host.Reaches path directory name) (free : host.tree.LinkFree) : host.Finds path directory name :=
  ⟨h.clean, h.reaches.finds free⟩

def Host.SameEntry (host : Host) (path other : Path) : Prop :=
  ∃ found, host.tree.status host.location path = .ok found ∧ host.tree.status host.location other = .ok found

theorem Host.sameEntry_iff {host : Host} {path other : Path} : host.SameEntry path other ↔
    (host.tree.status host.location path).toOption.isSome ∧
      (host.tree.status host.location path).toOption = (host.tree.status host.location other).toOption := by
  unfold Host.SameEntry
  cases host.tree.status host.location path with
  | error code => simp [Except.toOption]
  | ok found => cases host.tree.status host.location other <;> simp [Except.toOption, eq_comm]

theorem Host.Finds.not_sameEntry {host : Host} {path other : Path} {directory there : Location} {name last : Name}
    (h : host.Finds path directory name) (h' : host.Finds other there last)
    (apart : directory ++ [name.text] ≠ there ++ [last.text]) : ¬ host.SameEntry path other := by
  have hlocation : ∀ {path directory name found}, host.Finds path directory name →
      host.tree.status host.location path = .ok found → found.1 = directory ++ [name.text] := by
    intro path directory name found h hstatus
    rw [h.finds.status] at hstatus
    split at hstatus
    · cases hstatus
    · cases hstatus
      rfl
  rintro ⟨found, hstatus, hstatus'⟩
  exact apart ((hlocation h hstatus).symm.trans (hlocation h' hstatus'))

namespace HostM
variable {α : Type} {host after : Host} {path : Path}

theorem run_get : Runs (get : HostM Host) host (.ok host) host := rfl

theorem runs_ask {question : FileTree → Location → Path → Except ErrorCode α} {answer : Except Fault α} :
    Runs (ask path question) host answer after ↔
      answer = (if '\x00' ∈ path.toString.toList then .error (.value .embeddedNul)
        else (question host.tree host.location path).mapError fun code => .system (refusal path code)) ∧
      after = host := by
  apply Runs.iff
  unfold ask
  split
  · rfl
  · unfold Runs
    rw [run_bind_ok run_get]
    cases question host.tree host.location path <;> rfl

theorem runs_ask_ok {question : FileTree → Location → Path → Except ErrorCode α} {a : α} :
    Runs (ask path question) host (.ok a) after ↔
      '\x00' ∉ path.toString.toList ∧ question host.tree host.location path = .ok a ∧ after = host := by
  rw [runs_ask]
  split
  · simp [*]
  · cases question host.tree host.location path with
    | ok b =>
      change Except.ok a = .ok b ∧ _ ↔ _
      simp [*, eq_comm]
    | error code =>
      change Except.ok a = .error _ ∧ _ ↔ _
      simp [*]

theorem runs_setEntry {location : Location} {entry : Entry} {answer : Except Fault Unit} :
    Runs (setEntry location entry) host answer after ↔
      answer = .ok () ∧ after = host.withTree (host.tree.set location entry) :=
  Runs.iff rfl

theorem runs_setTree {tree : FileTree} {answer : Except Fault Unit} :
    Runs (setTree tree) host answer after ↔ answer = .ok () ∧ after = host.withTree tree :=
  Runs.iff rfl

theorem runs_fail {fault : Fault} {answer : Except Fault α} :
    Runs (fail fault) host answer after ↔ answer = .error fault ∧ after = host := runs_throw

theorem runs_orElse {act : HostM α} {handle : SystemError → HostM α} {answer : Except Fault α} :
    Runs (orElse act handle) host answer after ↔
      (Runs act host answer after ∧ ∀ error, answer ≠ .error (.system error)) ∨
      ∃ error middle, Runs act host (.error (.system error)) middle ∧ Runs (handle error) middle answer after := by
  unfold orElse
  rw [runs_tryCatch]
  constructor
  · rintro (⟨a, ha, rfl⟩ | ⟨fault, middle, hf, hh⟩)
    · exact .inl ⟨ha, fun error h => by cases h⟩
    · cases fault with
      | system error => exact .inr ⟨error, middle, hf, hh⟩
      | _ =>
        obtain ⟨rfl, rfl⟩ := runs_throw.1 hh
        exact .inl ⟨hf, fun error h => by cases h⟩
  · rintro (⟨ha, hne⟩ | ⟨error, middle, hf, hh⟩)
    · cases answer with
      | ok a => exact .inl ⟨a, ha, rfl⟩
      | error fault =>
        refine .inr ⟨fault, after, ha, ?_⟩
        cases fault with
        | system error => exact absurd rfl (hne error)
        | _ => exact runs_throw.2 ⟨rfl, rfl⟩
    · exact .inr ⟨.system error, middle, hf, hh⟩

theorem runs_orElse_ok {act : HostM α} {handle : SystemError → HostM α} {a : α} :
    Runs (orElse act handle) host (.ok a) after ↔
      Runs act host (.ok a) after ∨
      ∃ error middle, Runs act host (.error (.system error)) middle ∧ Runs (handle error) middle (.ok a) after := by
  rw [runs_orElse]
  simp

section naming
variable {act : HostM α} {name : SystemError → Fault}

theorem runs_orElse_fail_ok {a : α} :
    Runs (orElse act fun error => fail (name error)) host (.ok a) after ↔ Runs act host (.ok a) after := by
  rw [runs_orElse_ok]
  constructor
  · rintro (h | ⟨error, middle, -, hfails⟩)
    · exact h
    · cases (runs_fail.1 hfails).1
  · exact .inl

/-- A handler that only names refusals changes nothing, and lets other faults pass. -/
theorem runs_orElse_fail_error {fault : Fault} :
    Runs (orElse act fun error => fail (name error)) host (.error fault) after ↔
      (Runs act host (.error fault) after ∧ ∀ error, fault ≠ .system error) ∨
      ∃ error, Runs act host (.error (.system error)) after ∧ fault = name error := by
  rw [runs_orElse]
  constructor
  · rintro (⟨h, hother⟩ | ⟨error, middle, h, hfails⟩)
    · exact .inl ⟨h, fun error heq => hother error (congrArg _ heq)⟩
    · obtain ⟨hanswer, rfl⟩ := runs_fail.1 hfails
      exact .inr ⟨error, h, Except.error.inj hanswer⟩
  · rintro (⟨h, hother⟩ | ⟨error, h, rfl⟩)
    · exact .inl ⟨h, fun error heq => hother error (Except.error.inj heq)⟩
    · exact .inr ⟨error, after, h, runs_fail.2 ⟨rfl, rfl⟩⟩

theorem exists_of_orElse_fail {answer : Except Fault α}
    (h : Runs (orElse act fun error => fail (name error)) host answer after) : ∃ result, Runs act host result after := by
  cases answer with
  | ok a => exact ⟨_, runs_orElse_fail_ok.1 h⟩
  | error fault =>
    rcases runs_orElse_fail_error.1 h with ⟨h, -⟩ | ⟨error, h, -⟩
    · exact ⟨_, h⟩
    · exact ⟨_, h⟩

end naming

theorem keeps_orElse {related : Host → Host → Prop} (trans : ∀ s t u, related s t → related t u → related s u)
    (refl : ∀ s, related s s) {act : HostM α} {handle : SystemError → HostM α} (first : Keeps related act)
    (rest : ∀ error, Keeps related (handle error)) : Keeps related (orElse act handle) := by
  apply Keeps.tryCatch trans first
  intro fault
  cases fault with
  | system error => exact rest error
  | _ => exact Keeps.throw refl _

def Quiet (act : HostM α) : Prop := Keeps (fun before after => after = before) act

theorem Quiet.pure (a : α) : Quiet (Pure.pure a) := fun _ _ _ h => (runs_pure.1 h).2

theorem Quiet.fail (fault : Fault) : Quiet (HostM.fail fault : HostM α) := fun _ _ _ h => (runs_fail.1 h).2

theorem Quiet.bind {β : Type} {act : HostM α} {next : α → HostM β} (first : Quiet act)
    (rest : ∀ a, Quiet (next a)) : Quiet (act >>= next) :=
  Keeps.bind (fun _ _ _ h h' => h'.trans h) first rest

theorem quiet_ask (question : FileTree → Location → Path → Except ErrorCode α) : Quiet (ask path question) :=
  fun _ _ _ h => (runs_ask.1 h).2

theorem quiet_entry : Quiet ( entry? path) := by
  apply Keeps.tryCatch (fun _ _ _ h h' => h'.trans h) (Quiet.bind (quiet_ask _) fun _ => Quiet.pure _)
  intro fault
  split
  · exact Quiet.pure _
  · exact Keeps.ite (Quiet.pure _) (Quiet.fail _)
  · exact Quiet.fail _

theorem quiet_pathExists : Quiet (pathExists path) := Quiet.bind quiet_entry fun _ => Quiet.pure _

theorem quiet_isDirectory : Quiet (isDirectory path) := Quiet.bind quiet_entry fun _ => Quiet.pure _

theorem runs_found? {answer : Except Fault (Option (Location × Entry))} :
    Runs (found? path) host answer after ↔
      answer = (if '\x00' ∈ path.toString.toList then .error (.value .embeddedNul)
        else .ok (host.tree.status host.location path).toOption) ∧
      after = host := by
  have hask := (@runs_ask _ host host path FileTree.status _).2 ⟨rfl, rfl⟩
  apply Runs.iff
  split
  · rename_i hnul
    rw [if_pos hnul] at hask
    exact runs_orElse.2 (.inl ⟨runs_bind_error.2 (.inl hask), by simp⟩)
  · rename_i hclean
    rw [if_neg hclean] at hask
    cases hstatus : host.tree.status host.location path with
    | ok found =>
      rw [hstatus] at hask
      exact runs_orElse_ok.2 (.inl (runs_bind_ok.2 ⟨found, host, hask, runs_pure.2 ⟨rfl, rfl⟩⟩))
    | error code =>
      rw [hstatus] at hask
      exact runs_orElse_ok.2 (.inr ⟨_, host, runs_bind_error.2 (.inl hask), runs_pure.2 ⟨rfl, rfl⟩⟩)

theorem quiet_found? : Quiet (found? path) := fun _ _ _ h => (runs_found?.1 h).2

theorem readFile_ok (free : host.tree.LinkFree) {bytes : List UInt8}
    (h : Runs (readFile path) host (.ok bytes) after) :
    after = host ∧ ∃ directory name, host.Reaches path directory name ∧
      host.tree.get? (directory ++ [name.text]) = some (.file bytes) := by
  obtain ⟨hclean, hread, rfl⟩ := runs_ask_ok.1 h
  obtain ⟨directory, name, hreaches, hfile⟩ := FileTree.read_eq_ok free hread
  exact ⟨rfl, directory, name, ⟨hclean, hreaches⟩, hfile⟩

theorem writeFile_ok (free : host.tree.LinkFree) {bytes : List UInt8}
    (h : Runs (writeFile path bytes) host (.ok ()) after) :
    ∃ directory name, host.Reaches path directory name ∧
      host.tree.get? (directory ++ [name.text]) ≠ some .directory ∧
      after = host.withTree (host.tree.set (directory ++ [name.text]) (.file bytes)) := by
  obtain ⟨location, middle, hask, hset⟩ := runs_bind_ok.1 h
  obtain ⟨hclean, hwrite, rfl⟩ := runs_ask_ok.1 hask
  obtain ⟨directory, name, hreaches, rfl, hopen⟩ := FileTree.writeLocation_eq_ok free hwrite
  exact ⟨directory, name, ⟨hclean, hreaches⟩, hopen, (runs_setEntry.1 hset).2⟩

theorem writeFile_error {bytes : List UInt8} {fault : Fault}
    (h : Runs (writeFile path bytes) host (.error fault) after) : after = host := by
  rcases runs_bind_error.1 h with hask | ⟨location, middle, -, hset⟩
  · exact quiet_ask _ _ _ _ hask
  · cases (runs_setEntry.1 hset).1

theorem writeFile_found {bytes : List UInt8} (h : Runs (writeFile path bytes) host (.ok ()) after) :
    '\x00' ∉ path.toString.toList ∧ ∃ found location, host.tree.walk host.location .write path = .ok found ∧
      found.Open location ∧ after = host.withTree (host.tree.set location (.file bytes)) := by
  obtain ⟨location, middle, hask, hset⟩ := runs_bind_ok.1 h
  obtain ⟨hclean, hwrite, rfl⟩ := runs_ask_ok.1 hask
  obtain ⟨found, hwalk, hopen⟩ := FileTree.writeLocation_open hwrite
  exact ⟨hclean, found, location, hwalk, hopen, (runs_setEntry.1 hset).2⟩

/-- What was written is read again. -/
theorem writeFile_reads {bytes : List UInt8} (h : Runs (writeFile path bytes) host (.ok ()) after) :
    after.tree.read after.location path = .ok bytes := by
  obtain ⟨-, found, location, hwalk, hopen, rfl⟩ := writeFile_found h
  refine FileTree.read_iff.2 ⟨location, FileTree.status_turn hwalk ?_ (.opened hopen ?_ (by simp))⟩
  · exact FileTree.stays_set hopen (FileTree.walk_iff.1 hwalk).2.stands _
  · rw [Host.withTree_tree, FileTree.get?_set, if_pos rfl]

theorem unlink_found (h : Runs (unlink path) host (.ok ()) after) :
    '\x00' ∉ path.toString.toList ∧ ∃ location entry,
      host.tree.walk host.location .stay path = .ok (.entry location entry) ∧ entry ≠ .directory ∧
      after = host.withTree (host.tree.erase location) := by
  obtain ⟨tree, middle, hask, hset⟩ := runs_bind_ok.1 h
  obtain ⟨hclean, hunlink, rfl⟩ := runs_ask_ok.1 hask
  obtain ⟨location, entry, hwalk, hopen, rfl⟩ := FileTree.unlink_entry hunlink
  exact ⟨hclean, location, entry, hwalk, hopen, (runs_setTree.1 hset).2⟩

theorem unlink_error {fault : Fault} (h : Runs (unlink path) host (.error fault) after) : after = host := by
  rcases runs_bind_error.1 h with hask | ⟨tree, middle, -, hset⟩
  · exact quiet_ask _ _ _ _ hask
  · cases (runs_setTree.1 hset).1

def copyBytes (source target : Path) : HostM Unit := do
  let bytes ← readFile source
  orElse (writeFile target bytes) fun error => do
    if error = refusal target .isDirectory then
      if (← found? target).isSome then fail (.system error) else fail (.system (.noDirectory target))
    else fail (.system error)

section copies
variable {source target : Path}

theorem runs_copyFile (clean : '\x00' ∉ source.toString.toList) (cleanTarget : '\x00' ∉ target.toString.toList)
    {answer : Except Fault Unit} : Runs (copyFile source target) host answer after ↔
      (host.SameEntry source target ∧ answer = .error (.system (.sameFile source target)) ∧ after = host) ∨
      (¬ host.SameEntry source target ∧ Runs (copyBytes source target) host answer after) := by
  have hfound : ∀ path : Path, '\x00' ∉ path.toString.toList →
      Runs (found? path) host (.ok (host.tree.status host.location path).toOption) host :=
    fun path hclean => runs_found?.2 ⟨(if_neg hclean).symm, rfl⟩
  have hrest : Runs (copyFile source target) host answer after ↔
      Runs (if (host.tree.status host.location source).toOption.isSome ∧
          (host.tree.status host.location source).toOption = (host.tree.status host.location target).toOption
        then fail (.system (.sameFile source target)) else copyBytes source target) host answer after := by
    unfold Runs copyFile
    rw [run_bind_ok (hfound source clean), run_bind_ok (hfound target cleanTarget)]
    rfl
  rw [hrest]
  by_cases hsame : host.SameEntry source target
  · rw [if_pos (Host.sameEntry_iff.1 hsame), runs_fail]
    simp [hsame]
  · rw [if_neg (mt Host.sameEntry_iff.2 hsame)]
    simp [hsame]

theorem run_copyFile_nul (host : Host) (nul : '\x00' ∈ source.toString.toList ∨ '\x00' ∈ target.toString.toList) :
    Runs (copyFile source target) host (.error (.value .embeddedNul)) host := by
  by_cases hsource : '\x00' ∈ source.toString.toList
  · exact runs_bind_error.2 (.inl (runs_found?.2 ⟨(if_pos hsource).symm, rfl⟩))
  · refine runs_bind_error.2 (.inr ⟨_, host, runs_found?.2 ⟨(if_neg hsource).symm, rfl⟩, ?_⟩)
    exact runs_bind_error.2 (.inl (runs_found?.2 ⟨(if_pos (nul.resolve_left hsource)).symm, rfl⟩))

theorem copyFile_clean (h : Runs (copyFile source target) host (.ok ()) after) :
    '\x00' ∉ source.toString.toList ∧ '\x00' ∉ target.toString.toList := by
  by_contra hnul
  rw [not_and_or, not_not, not_not] at hnul
  cases (h.unique (run_copyFile_nul host hnul)).1

/-- What is copied is another file, and its bytes are written. -/
theorem copyFile_ok (h : Runs (copyFile source target) host (.ok ()) after) :
    ¬ host.SameEntry source target ∧
      ∃ bytes, Runs (readFile source) host (.ok bytes) host ∧ Runs (writeFile target bytes) host (.ok ()) after := by
  obtain ⟨hclean, htarget⟩ := copyFile_clean h
  rcases (runs_copyFile hclean htarget).1 h with ⟨-, hfails, -⟩ | ⟨hother, hcopies⟩
  · cases hfails
  · obtain ⟨bytes, _, hread, hwrites⟩ := runs_bind_ok.1 hcopies
    obtain rfl := quiet_ask _ _ _ _ hread
    refine ⟨hother, bytes, hread, ?_⟩
    rcases runs_orElse_ok.1 hwrites with hwrite | ⟨error, middle, -, hhandle⟩
    · exact hwrite
    · split at hhandle
      · obtain ⟨found, last, -, hfails⟩ := runs_bind_ok.1 hhandle
        split at hfails <;> cases (runs_fail.1 hfails).1
      · cases (runs_fail.1 hhandle).1

theorem copyBytes_error {fault : Fault} (h : Runs (copyBytes source target) host (.error fault) after) :
    after = host := by
  rcases runs_bind_error.1 h with hread | ⟨bytes, _, hread, hwrites⟩
  · exact quiet_ask _ _ _ _ hread
  obtain rfl := quiet_ask _ _ _ _ hread
  rcases runs_orElse.1 hwrites with ⟨hwrite, -⟩ | ⟨error, middle, hwrite, hhandle⟩
  · exact writeFile_error hwrite
  · rw [← writeFile_error hwrite]
    refine Keeps.ite (Quiet.bind quiet_found? fun found => ?_) (Quiet.fail _) _ _ _ hhandle
    exact Keeps.ite (Quiet.fail _) (Quiet.fail _)

theorem copyFile_error {fault : Fault} (h : Runs (copyFile source target) host (.error fault) after) :
    after = host := by
  by_cases hnul : '\x00' ∈ source.toString.toList ∨ '\x00' ∈ target.toString.toList
  · exact (h.unique (run_copyFile_nul host hnul)).2
  · obtain ⟨hclean, htarget⟩ := not_or.1 hnul
    rcases (runs_copyFile hclean htarget).1 h with ⟨-, -, hafter⟩ | ⟨-, hcopies⟩
    · exact hafter
    · exact copyBytes_error hcopies

end copies

section status
variable {location : Location} {entry : Entry}

theorem run_entry_of_status (clean : '\x00' ∉ path.toString.toList)
    (h : host.tree.status host.location path = .ok (location, entry)) :
    Runs ( entry? path) host (.ok (some entry)) host := by
  refine runs_tryCatch.2 (.inl ⟨some entry, ?_, rfl⟩)
  exact runs_bind_ok.2 ⟨(location, entry), host, runs_ask_ok.2 ⟨clean, h, rfl⟩, runs_pure.2 ⟨rfl, rfl⟩⟩

theorem status_of_entry (h : Runs ( entry? path) host (.ok (some entry)) after) :
    '\x00' ∉ path.toString.toList ∧ ∃ location, host.tree.status host.location path = .ok (location, entry) := by
  rcases runs_tryCatch.1 h with ⟨found, hlooks, hanswer⟩ | ⟨fault, middle, -, hhandle⟩
  · cases hanswer
    obtain ⟨⟨location, _⟩, _, hask, hpure⟩ := runs_bind_ok.1 hlooks
    obtain ⟨hanswer, -⟩ := runs_pure.1 hpure
    obtain ⟨hclean, hstatus, -⟩ := runs_ask_ok.1 hask
    cases hanswer
    exact ⟨hclean, location, hstatus⟩
  · split at hhandle
    · cases (runs_pure.1 hhandle).1
    · split at hhandle
      · cases (runs_pure.1 hhandle).1
      · cases (runs_throw.1 hhandle).1
    · cases (runs_throw.1 hhandle).1

end status

section finds
variable {directory : Location} {name : Name}

theorem run_readFile (h : host.Finds path directory name) {bytes : List UInt8}
    (file : host.tree.get? (directory ++ [name.text]) = some (.file bytes)) :
    Runs (readFile path) host (.ok bytes) host :=
  runs_ask_ok.2 ⟨h.clean, h.finds.read file, rfl⟩

theorem run_writeFile (h : host.Finds path directory name)
    (open_ : host.tree.get? (directory ++ [name.text]) ≠ some .directory) (bytes : List UInt8) :
    Runs (writeFile path bytes) host (.ok ())
      (host.withTree (host.tree.set (directory ++ [name.text]) (.file bytes))) :=
  runs_bind_ok.2 ⟨_, host, runs_ask_ok.2 ⟨h.clean, h.finds.writeLocation open_, rfl⟩,
    runs_setEntry.2 ⟨rfl, rfl⟩⟩

theorem run_writeFile_directory (h : host.Finds path directory name)
    (blocked : host.tree.get? (directory ++ [name.text]) = some .directory) (bytes : List UInt8) :
    Runs (writeFile path bytes) host (.error (.system (refusal path .isDirectory))) host := by
  refine runs_bind_error.2 (.inl (runs_ask.2 ⟨?_, rfl⟩))
  rw [if_neg h.clean, h.finds.writeLocation_directory blocked]
  rfl

theorem run_unlink (h : host.Finds path directory name) {bytes : List UInt8}
    (file : host.tree.get? (directory ++ [name.text]) = some (.file bytes)) :
    Runs (unlink path) host (.ok ()) (host.withTree (host.tree.erase (directory ++ [name.text]))) :=
  runs_bind_ok.2 ⟨_, host, runs_ask_ok.2 ⟨h.clean, h.finds.unlink file, rfl⟩, runs_setTree.2 ⟨rfl, rfl⟩⟩

theorem run_entry (h : host.Finds path directory name) :
    Runs ( entry? path) host (.ok (host.tree.get? (directory ++ [name.text]))) host := by
  have hstatus := h.finds.status
  cases hget : host.tree.get? (directory ++ [name.text]) with
  | some entry =>
    rw [hget] at hstatus
    exact run_entry_of_status h.clean hstatus
  | none =>
    rw [hget] at hstatus
    refine runs_tryCatch.2 (.inr ⟨.system (refusal path .noEntry), host, ?_, ?_⟩)
    · refine runs_bind_error.2 (.inl (runs_ask.2 ⟨?_, rfl⟩))
      rw [if_neg h.clean, hstatus]
      rfl
    · have hnowhere : leadsNowhere path (refusal path .noEntry) = true := by simp [leadsNowhere]
      simp only [hnowhere, if_true]
      exact runs_pure.2 ⟨rfl, rfl⟩

theorem run_pathExists (h : host.Finds path directory name) :
    Runs (pathExists path) host (.ok (host.tree.get? (directory ++ [name.text])).isSome) host :=
  runs_bind_ok.2 ⟨_, host, run_entry h, runs_pure.2 ⟨rfl, rfl⟩⟩

theorem run_copyFile {source target : Path} {origin : Location} {originName : Name} {bytes : List UInt8}
    (hsource : host.Finds source origin originName)
    (file : host.tree.get? (origin ++ [originName.text]) = some (.file bytes))
    (htarget : host.Finds target directory name)
    (open_ : host.tree.get? (directory ++ [name.text]) ≠ some .directory)
    (apart : origin ++ [originName.text] ≠ directory ++ [name.text]) :
    Runs (copyFile source target) host (.ok ())
      (host.withTree (host.tree.set (directory ++ [name.text]) (.file bytes))) := by
  refine (runs_copyFile hsource.clean htarget.clean).2 (.inr ⟨hsource.not_sameEntry htarget apart, ?_⟩)
  refine runs_bind_ok.2 ⟨bytes, host, run_readFile hsource file, ?_⟩
  exact runs_orElse_ok.2 (.inl (run_writeFile htarget open_ bytes))

end finds

end HostM

end GuestForge
