import GuestForge.Build.External
import GuestForge.Proofs.PublishDirectories
set_option autoImplicit false

/-!
# Where the log of a package is

The name of a package goes into the path of its log as it stands, so it may lead elsewhere with slashes and `..`. A name
keeps its log if it is not anchored, does not climb above the target directory on its way, and ends up in the directory
of logs; the place below that is the same for every target directory then. Any other name leaves it for some target
directory at least.
-/
namespace GuestForge

section names
variable {stem : String} (h : '/' ∉ stem.toList)

include h in
theorem logName_valid : stem ++ ".log" ≠ "" ∧ stem ++ ".log" ≠ "." ∧ '/' ∉ (stem ++ ".log").toList := by
  have hlength : (stem ++ ".log").toList.length = stem.toList.length + 4 := by simp
  refine ⟨fun hempty => ?_, fun hdot => ?_, ?_⟩
  · rw [hempty] at hlength
    simp at hlength
  · rw [hdot] at hlength
    simp at hlength
  · rw [String.toList_append, List.mem_append]
    exact fun hslash => hslash.elim h (by decide)

def logName : Name := ⟨stem ++ ".log", logName_valid h⟩

theorem getLast?_logName : (logName h).text.toList.getLast? = some 'g' := by
  rw [logName, String.toList_append, List.getLast?_append]
  rfl

theorem logName_ne_up : (logName h).text ≠ ".." := by
  intro hup
  have hlast := getLast?_logName h
  rw [hup] at hlast
  exact absurd hlast (by decide)

theorem logName_ne_logs : (logName h).text ≠ "logs" := by
  intro hlogs
  have hlast := getLast?_logName h
  rw [hlogs] at hlast
  exact absurd hlast (by decide)

end names

theorem ofString_plain_log {text : String} (h : '/' ∉ text.toList) :
    Path.ofString (text ++ ".log") = ⟨.relative, [logName h]⟩ :=
  Path.ofString_text (logName h)

theorem names_log (text : String) : ∃ (outer : List Name) (stem : String) (h : '/' ∉ stem.toList),
    (Path.ofString (text ++ ".log")).names = outer ++ [logName h] := by
  by_cases hslash : '/' ∈ text.toList
  · obtain ⟨before, after, htext, hafter⟩ := exists_last_of_mem hslash
    have hstem : '/' ∉ (String.ofList after).toList := by rwa [String.toList_ofList]
    have hsplit : Path.segments (text ++ ".log").toList = Path.segments before ++ [(logName hstem).text.toList] := by
      have hlist : (text ++ ".log").toList = before ++ '/' :: (logName hstem).text.toList := by
        simp [logName, htext]
      rw [hlist, Path.segments, segments_eq_splitOn, List.splitOn_append_cons_self, ← segments_eq_splitOn,
        ← segments_eq_splitOn, Text.segments_of_notMem (logName hstem).valid.2.2]
      rfl
    refine ⟨(Path.segments before).filterMap fun piece => Name.ofString? (String.ofList piece), _, hstem, ?_⟩
    rw [Path.ofString, hsplit, List.filterMap_append]
    exact congrArg _ (Path.filterMap_names [logName hstem])
  · exact ⟨[], text, hslash, congrArg Path.names (ofString_plain_log hslash)⟩

namespace FileTree

/-- Where names lead from a place below a directory, unless they climb above that directory on their way. -/
def descend : Location → List Name → Option Location
  | below, [] => some below
  | below, name :: rest =>
    if name.text = ".." then if below = [] then none else descend below.dropLast rest
    else descend (below ++ [name.text]) rest

theorem descend_append {below : Location} {front rest : List Name} :
    descend below (front ++ rest) = (descend below front).bind fun middle => descend middle rest := by
  induction front generalizing below with
  | nil => rfl
  | cons name front ih =>
    rw [List.cons_append, descend, descend]
    split_ifs
    · rfl
    · exact ih
    · exact ih

/-- Names that stay below a directory lead to the same place below any directory. -/
theorem foldl_step_of_descend {below there : Location} {names : List Name} (h : descend below names = some there)
    (base : Location) : names.foldl step (base ++ below) = base ++ there := by
  induction names generalizing below with
  | nil =>
    cases h
    rfl
  | cons name rest ih =>
    rw [descend] at h
    rw [List.foldl_cons, step]
    split_ifs at h ⊢ with hup hbelow
    · rw [List.dropLast_append_of_ne_nil hbelow]
      exact ih h
    · rw [List.append_assoc]
      exact ih h

/-- Names that climb above a directory in the root forget what that was called. -/
theorem foldl_step_of_climb {below : Location} {names : List Name} (h : descend below names = none) :
    ∃ place, ∀ text, names.foldl step (text :: below) = place := by
  induction names generalizing below with
  | nil => cases h
  | cons name rest ih =>
    rw [descend] at h
    split_ifs at h with hup hbelow
    · -- Here the names reach the root, and go on from there.
      refine ⟨rest.foldl step [], fun text => ?_⟩
      rw [List.foldl_cons, step, if_pos hup, hbelow]
      rfl
    · obtain ⟨place, hplace⟩ := ih h
      refine ⟨place, fun text => ?_⟩
      rw [List.foldl_cons, step, if_pos hup, ← hplace text, List.dropLast_cons_of_ne_nil hbelow]
    · obtain ⟨place, hplace⟩ := ih h
      refine ⟨place, fun text => ?_⟩
      rw [List.foldl_cons, step, if_neg hup, ← hplace text]
      rfl

theorem exists_not_below (place : Location) :
    ∃ name : Name, name.text ≠ ".." ∧ ¬ [name.text, "logs"] <+: place := by
  by_cases ha : ["a", "logs"] <+: place
  · refine ⟨⟨"b", by decide⟩, by decide, fun hb => ?_⟩
    obtain ⟨_, rfl⟩ := ha
    exact absurd (List.cons_prefix_cons.1 hb).1 (by decide)
  · exact ⟨⟨"a", by decide⟩, by decide, ha⟩

end FileTree

open FileTree

/-- The name of a package keeps its log in the directory of logs, at this place below. -/
structure LogAt (text : String) (below : Location) : Prop where
  relative : (Path.ofString (text ++ ".log")).anchor = .relative
  descends : descend ["logs"] (Path.ofString (text ++ ".log")).names = some ("logs" :: below)

/-- A path leads into the directory of logs, once `..` is undone by what stands before it. -/
def InLogs (current : Location) (targetDirectory path : Path) : Prop :=
  spot current targetDirectory ++ ["logs"] <+: spot current path ∧
    spot current path ≠ spot current targetDirectory ++ ["logs"]

instance (current : Location) (targetDirectory path : Path) : Decidable (InLogs current targetDirectory path) :=
  inferInstanceAs (Decidable (_ ∧ _))

def logsName : Name := ⟨"logs", by decide⟩

open External (logPath)

section logs
variable {package other : Package} {targetDirectory : Path} {current : Location} {below below' : Location}

theorem logPath_relative (h : (Path.ofString (package.name ++ ".log")).anchor = .relative) :
    logPath targetDirectory package =
      ⟨targetDirectory.anchor, targetDirectory.names ++ logsName :: (Path.ofString (package.name ++ ".log")).names⟩ := by
  have hlogs : Path.ofString "logs" = ⟨.relative, [logsName]⟩ := Path.ofString_text logsName
  rw [logPath, Path.join, h, hlogs, Path.join]
  simp

theorem logPath_anchored (h : (Path.ofString (package.name ++ ".log")).anchor ≠ .relative) :
    logPath targetDirectory package = Path.ofString (package.name ++ ".log") := by
  unfold logPath
  generalize Path.ofString (package.name ++ ".log") = log at h
  rw [Path.join]
  split
  · exact absurd ‹_› h
  · rfl

theorem spot_logPath (h : (Path.ofString (package.name ++ ".log")).anchor = .relative) :
    spot current (logPath targetDirectory package) =
      (Path.ofString (package.name ++ ".log")).names.foldl step (spot current targetDirectory ++ ["logs"]) := by
  rw [logPath_relative h, spot, spot, List.foldl_append, List.foldl_cons]
  rfl

theorem LogAt.spot_eq (h : LogAt package.name below) (current : Location) (targetDirectory : Path) :
    spot current (logPath targetDirectory package) = spot current targetDirectory ++ "logs" :: below := by
  rw [spot_logPath h.relative, foldl_step_of_descend h.descends]

theorem LogAt.ne_nil {text : String} (h : LogAt text below) : below ≠ [] := by
  rintro rfl
  obtain ⟨outer, stem, hstem, hnames⟩ := names_log text
  have hdescends := h.descends
  rw [hnames, descend_append] at hdescends
  obtain ⟨middle, -, hlast⟩ := Option.bind_eq_some_iff.1 hdescends
  rw [descend, if_neg (logName_ne_up hstem), descend, Option.some.injEq] at hlast
  obtain ⟨-, hlogs⟩ := List.append_inj' (hlast.trans (List.nil_append ["logs"]).symm) rfl
  exact logName_ne_logs hstem (List.cons.inj hlogs).1

theorem LogAt.inLogs (h : LogAt package.name below) (current : Location) (targetDirectory : Path) :
    InLogs current targetDirectory (logPath targetDirectory package) := by
  rw [InLogs, h.spot_eq]
  refine ⟨⟨below, by rw [List.append_assoc]; rfl⟩, fun hlogs => h.ne_nil ?_⟩
  exact (List.cons.inj (List.append_cancel_left hlogs)).2

/-- A name that does not keep its log leaves the directory of logs for some target directory in the root. -/
theorem exists_not_inLogs (h : ¬ ∃ below, LogAt package.name below) :
    ∃ targetDirectory, ¬ InLogs [] targetDirectory (logPath targetDirectory package) := by
  have htarget : ∀ name : Name, name.text ≠ ".." → spot [] ⟨.root, [name]⟩ = [name.text] := fun name hup => if_neg hup
  by_cases hanchor : (Path.ofString (package.name ++ ".log")).anchor = .relative
  · cases hdescend : descend ["logs"] (Path.ofString (package.name ++ ".log")).names with
    | none =>
      obtain ⟨place, hplace⟩ := foldl_step_of_climb hdescend
      obtain ⟨name, hup, houtside⟩ := exists_not_below place
      refine ⟨⟨.root, [name]⟩, fun hin => houtside ?_⟩
      have hprefix := hin.1
      rw [spot_logPath hanchor, htarget name hup, List.singleton_append, hplace] at hprefix
      exact hprefix
    | some there =>
      obtain ⟨name, hup, -⟩ := exists_not_below []
      refine ⟨⟨.root, [name]⟩, fun hin => h ?_⟩
      have hprefix := hin.1
      rw [spot_logPath hanchor, foldl_step_of_descend hdescend, List.prefix_append_right_inj] at hprefix
      obtain ⟨below, rfl⟩ := hprefix
      exact ⟨below, hanchor, hdescend⟩
  · obtain ⟨name, hup, houtside⟩ := exists_not_below (spot [] (Path.ofString (package.name ++ ".log")))
    refine ⟨⟨.root, [name]⟩, fun hin => houtside ?_⟩
    have hprefix := hin.1
    rw [logPath_anchored hanchor, htarget name hup] at hprefix
    exact hprefix

/-- A log stays in the directory of logs of every target directory exactly if the name keeps it. -/
theorem inLogs_iff : (∀ current targetDirectory, InLogs current targetDirectory (logPath targetDirectory package)) ↔
    ∃ below, LogAt package.name below := by
  constructor
  · intro h
    by_contra hno
    obtain ⟨targetDirectory, houtside⟩ := exists_not_inLogs hno
    exact houtside (h [] targetDirectory)
  · rintro ⟨below, hlog⟩ current targetDirectory
    exact hlog.inLogs current targetDirectory

theorem LogAt.spot_eq_iff (h : LogAt package.name below) (h' : LogAt other.name below') (current : Location)
    (targetDirectory : Path) :
    spot current (logPath targetDirectory package) = spot current (logPath targetDirectory other) ↔ below = below' := by
  rw [h.spot_eq, h'.spot_eq, List.append_cancel_left_eq, List.cons.injEq]
  exact and_iff_right rfl

theorem logAt_plain {text : String} (h : '/' ∉ text.toList) : LogAt text [text ++ ".log"] := by
  rw [show text ++ ".log" = (logName h).text from rfl]
  have hlog := ofString_plain_log h
  refine ⟨by rw [hlog], ?_⟩
  rw [hlog, descend, if_neg (logName_ne_up h)]
  rfl

end logs

end GuestForge
