import GuestForge.Proofs.HostActions
import GuestForge.Proofs.PathText
set_option autoImplicit false

/-!
# What file operations fail with

On paths without a NUL character every file operation fails with a refusal of the system or not at all, whatever
the tree holds, links included. On a path with one, it fails before it looks at the tree, and not with a refusal.
-/
namespace GuestForge

def Raises {ε σ α : Type} (allowed : ε → Prop) (action : ExceptT ε (StateM σ) α) : Prop :=
  ∀ before fault after, Runs action before (.error fault) after → allowed fault

namespace Raises
variable {ε σ α β : Type} {allowed : ε → Prop}

theorem pure (a : α) : Raises allowed (Pure.pure a : ExceptT ε (StateM σ) α) := by
  intro before fault after h
  cases (runs_pure.1 h).1

theorem throw {fault : ε} (h : allowed fault) : Raises allowed (MonadExcept.throw fault : ExceptT ε (StateM σ) α) := by
  intro before other after hruns
  cases (runs_throw.1 hruns).1
  exact h

theorem bind {action : ExceptT ε (StateM σ) α} {next : α → ExceptT ε (StateM σ) β} (first : Raises allowed action)
    (rest : ∀ a, Raises allowed (next a)) : Raises allowed (action >>= next) := by
  intro before fault after h
  rcases runs_bind_error.1 h with hfirst | ⟨a, middle, -, hrest⟩
  · exact first _ _ _ hfirst
  · exact rest a _ _ _ hrest

theorem map {f : α → β} {action : ExceptT ε (StateM σ) α} (h : Raises allowed action) :
    Raises allowed (f <$> action) :=
  fun _ _ _ hruns => h _ _ _ (runs_map_error.1 hruns)

theorem tryCatch {caught : ε → Prop} {action : ExceptT ε (StateM σ) α} {handle : ε → ExceptT ε (StateM σ) α}
    (first : Raises caught action) (rest : ∀ fault, caught fault → Raises allowed (handle fault)) :
    Raises allowed (MonadExcept.tryCatch action handle) := by
  intro before fault after h
  rcases runs_tryCatch.1 h with ⟨a, -, hanswer⟩ | ⟨other, middle, hfault, hhandle⟩
  · cases hanswer
  · exact rest other (first _ _ _ hfault) _ _ _ hhandle

theorem forM {action : α → ExceptT ε (StateM σ) PUnit} {list : List α}
    (step : ∀ a ∈ list, Raises allowed (action a)) : Raises allowed (list.forM action) := by
  intro before fault after h
  obtain ⟨done, a, rest, middle, hlist, -, hfails⟩ := runs_forM_error.1 h
  exact step a (hlist ▸ List.mem_append_right _ List.mem_cons_self) _ _ _ hfails

theorem ite {condition : Prop} [Decidable condition] {action other : ExceptT ε (StateM σ) α}
    (first : condition → Raises allowed action) (second : ¬ condition → Raises allowed other) :
    Raises allowed (if condition then action else other) := by
  split
  · exact first ‹_›
  · exact second ‹_›

end Raises

/-- A path whose text holds a NUL character, which no system call takes. -/
def Path.HasNul (path : Path) : Prop := '\x00' ∈ path.toString.toList

instance (path : Path) : Decidable path.HasNul := inferInstanceAs (Decidable (_ ∈ _))

theorem Path.nul_mem_intercalate (texts : List String) :
    '\x00' ∈ ("/".intercalate texts).toList ↔ ∃ text ∈ texts, '\x00' ∈ text.toList := by
  rw [String.toList_intercalate]
  induction texts with
  | nil => simp
  | cons text rest ih =>
    cases rest with
    | nil => simp
    | cons next rest =>
      have hslash : '\x00' ∉ "/".toList := by decide
      rw [List.map_cons] at ih
      rw [List.map_cons, List.map_cons, List.intercalate_cons_cons, List.mem_append, List.mem_append, ih]
      simp only [hslash, or_false, List.mem_cons, exists_eq_or_imp]

theorem Path.hasNul_iff (path : Path) : path.HasNul ↔ ∃ name ∈ path.names, '\x00' ∈ name.text.toList := by
  unfold HasNul toString write
  split
  · rename_i hdot
    rw [List.map_eq_nil_iff.1 hdot.2]
    simp
  · have hanchor : '\x00' ∉ (anchorText path.anchor).toList := by
      cases path.anchor <;> decide
    rw [String.toList_append, List.mem_append, nul_mem_intercalate]
    simp only [hanchor, false_or, List.mem_map, exists_exists_and_eq_and]

theorem Path.hasNul_parent {path : Path} (h : path.parent.HasNul) : path.HasNul := by
  rw [hasNul_iff] at h ⊢
  obtain ⟨name, hname, hnul⟩ := h
  exact ⟨name, List.dropLast_subset _ hname, hnul⟩

namespace HostM
variable {α : Type}

def Refuses (act : HostM α) : Prop := Raises (fun fault => ∃ error, fault = .system error) act

theorem Refuses.fail (error : SystemError) : Refuses (HostM.fail (.system error) : HostM α) :=
  Raises.throw ⟨error, rfl⟩

theorem Refuses.orElse {allowed : Fault → Prop} {act : HostM α} {handle : SystemError → HostM α} (first : Refuses act)
    (rest : ∀ error, Raises allowed (handle error)) : Raises allowed (HostM.orElse act handle) := by
  refine Raises.tryCatch first ?_
  rintro _ ⟨error, rfl⟩
  exact rest error

theorem Refuses.named {act : HostM α} (h : Refuses act) (name : SystemError → Fault) :
    Raises (fun fault => ∃ error, fault = name error) (HostM.orElse act fun error => HostM.fail (name error)) :=
  h.orElse fun error => Raises.throw ⟨error, rfl⟩

section clean
variable {path : Path} (clean : ¬ path.HasNul)
include clean

theorem refuses_ask (question : FileTree → Location → Path → Except ErrorCode α) : Refuses (ask path question) := by
  intro before fault after h
  obtain ⟨hanswer, -⟩ := runs_ask.1 h
  unfold Path.HasNul at clean
  rw [if_neg clean] at hanswer
  cases hquestion : question before.tree before.location path with
  | ok a =>
    rw [hquestion] at hanswer
    cases hanswer
  | error code =>
    rw [hquestion] at hanswer
    cases hanswer
    exact ⟨_, rfl⟩

theorem refuses_writeFile (bytes : List UInt8) : Refuses (writeFile path bytes) := by
  refine Raises.bind (refuses_ask clean _) fun location before fault after h => ?_
  cases (runs_setEntry.1 h).1

theorem refuses_setTree (question : FileTree → Location → Path → Except ErrorCode FileTree) :
    Refuses (do setTree (← ask path question)) := by
  refine Raises.bind (refuses_ask clean _) fun tree before fault after h => ?_
  cases (runs_setTree.1 h).1

theorem refuses_found? : Refuses (found? path) := by
  refine Refuses.orElse (Raises.bind (refuses_ask clean _) fun found => ?_) fun error => ?_
  · exact Raises.pure _
  · exact Raises.pure _

theorem refuses_entry : Refuses ( entry? path) := by
  refine Raises.tryCatch (Raises.bind (refuses_ask clean _) fun _ => Raises.pure _) ?_
  rintro _ ⟨error, rfl⟩
  exact Raises.ite (fun _ => Raises.pure _) fun _ => Raises.throw ⟨error, rfl⟩

theorem refuses_pathExists : Refuses (pathExists path) :=
  Raises.bind (refuses_entry clean) fun _ => Raises.pure _

theorem refuses_isDirectory : Refuses (isDirectory path) :=
  Raises.bind (refuses_entry clean) fun _ => Raises.pure _

theorem refuses_makeDirectory : Refuses (makeDirectory path) := by
  refine Refuses.orElse (refuses_setTree clean _) fun error => Raises.ite (fun _ => Refuses.fail error) fun _ => ?_
  refine Raises.bind (refuses_isDirectory clean) fun found => Raises.ite (fun _ => Raises.pure _) fun _ => ?_
  exact Refuses.fail error

theorem refuses_copyFile {source : Path} (cleanSource : ¬ source.HasNul) : Refuses (copyFile source path) := by
  refine Raises.bind (refuses_found? cleanSource) fun origin => Raises.bind (refuses_found? clean) fun destination => ?_
  refine Raises.ite (fun _ => Refuses.fail _) fun _ => Raises.bind (refuses_ask cleanSource _) fun bytes => ?_
  refine Refuses.orElse (refuses_writeFile clean bytes) fun error => Raises.ite (fun _ => ?_) fun _ => Refuses.fail error
  refine Raises.bind (refuses_found? clean) fun found => ?_
  exact Raises.ite (fun _ => Refuses.fail _) fun _ => Refuses.fail _

end clean

theorem refuses_makeDirectoriesFrom {anchor : Anchor} {names : List Name}
    (clean : ¬ (⟨anchor, names.reverse⟩ : Path).HasNul) : Refuses (makeDirectoriesFrom anchor names) := by
  induction names with
  | nil => exact refuses_makeDirectory clean
  | cons name outer ih =>
    have houter := mt Path.hasNul_parent clean
    rw [Path.parent_reverse] at houter
    refine Refuses.orElse (refuses_makeDirectory clean) fun error => Raises.ite (fun _ => ?_) fun _ => Refuses.fail error
    exact Raises.bind (ih houter) fun _ => refuses_makeDirectory clean

theorem refuses_makeDirectories {path : Path} (clean : ¬ path.HasNul) : Refuses (makeDirectories path) := by
  refine refuses_makeDirectoriesFrom ?_
  rwa [List.reverse_reverse]

def Balks (act : HostM α) : Prop :=
  ∀ before answer after, Runs act before answer after → answer = .error (.value .embeddedNul) ∧ after = before

theorem Balks.bind {β : Type} {act : HostM α} {next : α → HostM β} (h : Balks act) : Balks (act >>= next) := by
  intro before answer after hruns
  rcases runs_bind.1 hruns with ⟨a, middle, hfirst, -⟩ | ⟨fault, hfirst, rfl⟩
  · cases (h _ _ _ hfirst).1
  · obtain ⟨hanswer, hafter⟩ := h _ _ _ hfirst
    cases hanswer
    exact ⟨rfl, hafter⟩

theorem Balks.orElse {act : HostM α} {handle : SystemError → HostM α} (h : Balks act) :
    Balks (HostM.orElse act handle) := by
  intro before answer after hruns
  rcases runs_orElse.1 hruns with ⟨hfirst, -⟩ | ⟨error, middle, hfirst, -⟩
  · exact h _ _ _ hfirst
  · cases (h _ _ _ hfirst).1

section nul
variable {path : Path} (nul : path.HasNul)
include nul

theorem balks_ask (question : FileTree → Location → Path → Except ErrorCode α) : Balks (ask path question) := by
  intro before answer after h
  obtain ⟨hanswer, hafter⟩ := runs_ask.1 h
  unfold Path.HasNul at nul
  rw [if_pos nul] at hanswer
  exact ⟨hanswer, hafter⟩

theorem balks_copyFile (target : Path) : Balks (copyFile path target) := by
  have hfound : Balks (found? path) := Balks.orElse (Balks.bind (balks_ask nul _))
  exact hfound.bind

theorem balks_makeDirectories : Balks (makeDirectories path) := by
  have hmakes : Balks (makeDirectory path) := Balks.orElse (Balks.bind (balks_ask nul _))
  obtain ⟨anchor, names⟩ := path
  unfold makeDirectories
  cases hnames : names.reverse with
  | nil =>
    rw [List.reverse_eq_nil_iff] at hnames
    rw [hnames] at hmakes
    exact hmakes
  | cons name outer =>
    rw [List.reverse_eq_iff] at hnames
    rw [hnames] at hmakes
    exact hmakes.orElse

end nul

end HostM

end GuestForge
