import GuestForge.Proofs.BakedFiles
set_option autoImplicit false

/-!
# Repeated runs

Where builds follow a recipe, the changes that a completed run makes to files can be told in advance, from any tree.
`Does` says so of an action, and also that the action can be done again wherever its directories are: it then makes
the same changes and no others. The changes made so far are the only thing that an action may rely on.
-/
namespace GuestForge
open HostM

structure Shows (current : List Name) (past : List Change) (host : Host) : Prop where
  current : host.current = current
  free : host.tree.LinkFree
  shows : ∀ location content, lastChange past location = some content →
    host.tree.get? location = content.map .file

def ErasesInside (inside : Location → Prop) (changes : List Change) : Prop :=
  ∀ location, (location, none) ∈ changes → inside location

/-- After the changes of `past`, the action can only end well with `a`, having made `changes`; and where it ended
well, it does so again with the same changes, as long as the directories are there. -/
structure Does {α : Type} (current : List Name) (act : HostM α) (past : List Change) (a : α)
    (changes : List Change) : Prop where
  first : ∀ before answer after, Shows current past before → Runs act before (.ok answer) after →
    answer = a ∧ Shows current (past ++ changes) after ∧
      (∀ location, before.tree.get? location = some .directory → after.tree.get? location = some .directory)
  again : ∀ before answer after other, Shows current past before → Runs act before (.ok answer) after →
    Shows current past other →
    (∀ location, after.tree.get? location = some .directory → other.tree.get? location = some .directory) →
    (∀ change ∈ changes, other.tree.get? change.1 ≠ some .directory) →
    ∃ last, Runs act other (.ok a) last ∧ last.current = other.current ∧ last.tree = other.tree.putAll changes

section does
variable {α β : Type} {current : List Name} {past : List Change}

theorem Shows.of_eq {host other : Host} (h : Shows current past host) (hcurrent : other.current = host.current)
    (htree : other.tree = host.tree) : Shows current past other := by
  refine ⟨hcurrent.trans h.current, ?_, ?_⟩
  · rw [htree]
    exact h.free
  · rw [htree]
    exact h.shows

theorem Shows.putAll {host other : Host} {changes : List Change} (h : Shows current past host)
    (hcurrent : other.current = host.current) (htree : other.tree = host.tree.putAll changes) :
    Shows current (past ++ changes) other := by
  refine ⟨hcurrent.trans h.current, htree ▸ h.free.putAll changes, fun location content hlast => ?_⟩
  rw [htree, FileTree.get?_putAll]
  rw [lastChange_append] at hlast
  cases hchanges : lastChange changes location with
  | none =>
    rw [hchanges] at hlast
    exact h.shows location content hlast
  | some _ =>
    rw [hchanges] at hlast
    cases hlast
    rfl

theorem does_pure (a : α) : Does current (pure a : HostM α) past a [] := by
  refine ⟨?_, ?_⟩
  · intro before answer after hshows hruns
    obtain ⟨hanswer, rfl⟩ := runs_pure.1 hruns
    rw [List.append_nil]
    exact ⟨Except.ok.inj hanswer, hshows, fun _ => id⟩
  · intro before answer after other _ _ _ _ _
    exact ⟨other, runs_pure.2 ⟨rfl, rfl⟩, rfl, rfl⟩

theorem Does.bind {act : HostM α} {next : α → HostM β} {a : α} {b : β} {changes rest : List Change}
    (h : Does current act past a changes) (h' : Does current (next a) (past ++ changes) b rest) :
    Does current (act >>= next) past b (changes ++ rest) := by
  refine ⟨?_, ?_⟩
  · intro before answer after hshows hruns
    obtain ⟨_, middle, hact, hnext⟩ := runs_bind_ok.1 hruns
    obtain ⟨rfl, hmiddle, hstay⟩ := h.first _ _ _ hshows hact
    obtain ⟨rfl, hafter, hstay'⟩ := h'.first _ _ _ hmiddle hnext
    rw [← List.append_assoc]
    exact ⟨rfl, hafter, fun location hlocation => hstay' location (hstay location hlocation)⟩
  · intro before answer after other hshows hruns hother hthere hopen
    obtain ⟨_, middle, hact, hnext⟩ := runs_bind_ok.1 hruns
    obtain ⟨rfl, hmiddle, hstay⟩ := h.first _ _ _ hshows hact
    obtain ⟨rfl, hafter, hstay'⟩ := h'.first _ _ _ hmiddle hnext
    have hopen₁ : ∀ change ∈ changes, other.tree.get? change.1 ≠ some .directory :=
      fun change hchange => hopen change (List.mem_append_left _ hchange)
    obtain ⟨between, hfirst, hcurrent, htree⟩ := h.again _ _ _ _ hshows hact hother
      (fun location hlocation => hthere location (hstay' location hlocation)) hopen₁
    obtain ⟨last, hrest, hcurrent', htree'⟩ := h'.again _ _ _ _ hmiddle hnext (hother.putAll hcurrent htree)
      (fun location hlocation => htree ▸ FileTree.directory_putAll hopen₁ (hthere location hlocation))
      (fun change hchange => htree ▸ FileTree.open_putAll (hopen change (List.mem_append_right _ hchange)))
    refine ⟨last, runs_bind_ok.2 ⟨_, _, hfirst, hrest⟩, hcurrent'.trans hcurrent, ?_⟩
    rw [htree', htree, FileTree.putAll_append]

/-- Along a list, with a property of the changes made so far that every element keeps. -/
theorem does_mapM {act : α → HostM β} {answer : α → β} {changes : α → List Change} {P : List Change → Prop}
    {list : List α} (step : ∀ a ∈ list, ∀ past, P past → Does current (act a) past (answer a) (changes a))
    (keeps : ∀ a ∈ list, ∀ past, P past → P (past ++ changes a)) (start : P past) :
    Does current (list.mapM act) past (list.map answer) (list.flatMap changes) := by
  induction list generalizing past with
  | nil => exact does_pure []
  | cons a rest ih =>
    have hrest := ih (fun b hb => step b (List.mem_cons_of_mem _ hb))
      (fun b hb => keeps b (List.mem_cons_of_mem _ hb)) (keeps a List.mem_cons_self past start)
    rw [List.mapM_cons, List.map_cons, List.flatMap_cons, ← List.append_nil (rest.flatMap changes)]
    exact (step a List.mem_cons_self past start).bind (hrest.bind (does_pure _))

end does

section operations
variable {current : List Name} {past : List Change} {inside : Location → Prop}

theorem Shows.location {host : Host} (h : Shows current past host) : host.location = current.map Name.text := by
  rw [Host.location, h.current]

theorem Shows.grows {host : Host} {made : FileTree} {created : Location → Prop} (h : Shows current past host)
    (erases : ErasesInside inside past) (grows : FileTree.Grows created host.tree made)
    (outside : ∀ location, created location → ¬ inside location) : Shows current past (host.withTree made) := by
  refine ⟨h.current, grows.linkFree h.free, fun location content hlast => ?_⟩
  have hshows := h.shows location content hlast
  rcases grows location with hsame | ⟨hcreated, hnone, -⟩
  · exact hsame.trans hshows
  · rw [hnone] at hshows
    obtain rfl := Option.map_eq_none_iff.1 hshows.symm
    exact absurd (erases location (lastChange_mem hlast)) (outside location hcreated)

theorem does_makeDirectories {path : Path} (erases : ErasesInside inside past)
    (outside : ∀ location, FileTree.Passes (current.map Name.text) path location → ¬ inside location) :
    Does current (makeDirectories path) past () [] := by
  refine ⟨?_, ?_⟩
  · intro before answer after hshows hruns
    obtain ⟨hafter, hgrows⟩ := keeps_makeDirectories path _ _ _ hruns hshows.location hshows.free
    rw [List.append_nil]
    refine ⟨rfl, ?_, fun location => hgrows.stays⟩
    rw [hafter]
    exact hshows.grows erases hgrows outside
  · intro before answer after other hshows hruns hother hthere _
    obtain ⟨hafter, -⟩ := keeps_makeDirectories path _ _ _ hruns hshows.location hshows.free
    have hlocation : other.location = after.location := by
      rw [hother.location, hafter, Host.withTree_location, hshows.location]
    exact ⟨other, run_makeDirectories hother.free ((makeDirectories_enters hshows.free hruns).mono hlocation hthere),
      rfl, rfl⟩

theorem does_writeFile (path : Path) (bytes : List UInt8) :
    Does current (writeFile path bytes) past () [(FileTree.spot (current.map Name.text) path, some bytes)] := by
  have hwrites : ∀ before after, Shows current past before → Runs (writeFile path bytes) before (.ok ()) after →
      ∃ directory name, before.Reaches path directory name ∧
        after = before.withTree (before.tree.put (directory ++ [name.text]) (some bytes)) ∧
        ∀ location, before.tree.get? location = some .directory → after.tree.get? location = some .directory := by
    intro before after hshows hruns
    obtain ⟨directory, name, hreaches, hopen, rfl⟩ := writeFile_ok hshows.free hruns
    have hstays : ∀ location, before.tree.get? location = some .directory →
        (before.tree.put (directory ++ [name.text]) (some bytes)).get? location = some .directory :=
      fun location => FileTree.directory_put hopen
    exact ⟨directory, name, hreaches, rfl, hstays⟩
  refine ⟨?_, ?_⟩
  · intro before answer after hshows hruns
    obtain ⟨directory, name, hreaches, rfl, hstays⟩ := hwrites before after hshows hruns
    rw [← hshows.location, hreaches.reaches.location]
    exact ⟨rfl, hshows.putAll rfl rfl, hstays⟩
  · intro before answer after other hshows hruns hother hthere hopen
    obtain ⟨directory, name, hreaches, -, hstays⟩ := hwrites before after hshows hruns
    have hlocation : other.location = before.location := hother.location.trans hshows.location.symm
    rw [← hshows.location, hreaches.reaches.location] at hopen ⊢
    have hagain : other.Reaches path directory name :=
      hreaches.mono hlocation fun location hdirectory => hthere location (hstays location hdirectory)
    exact ⟨_, run_writeFile (hagain.finds hother.free) (hopen _ List.mem_cons_self) bytes, rfl, rfl⟩

def guestChanges (package : Package) (guest : BuiltGuest) (binary : List UInt8) : List Change :=
  siblingChanges package.publishDirectory.location guest.path.stem (guest.content binary) (publicationOrder guest)

section publishing
variable {package : Package} {guest : BuiltGuest} {binary : List UInt8}

/-- The binary that is copied is the one that the changes so far left there. -/
theorem Shows.publishes {before after : Host} {entry : PublishedGuest} (h : Shows current past before)
    (plain : package.manifest.Plain) (erases : ErasesInside inside past)
    (outside : ∀ location, location <+: package.publishDirectory.location → ¬ inside location)
    (source : lastChange past (FileTree.spot (current.map Name.text) guest.path) = some (some binary))
    (hruns : Runs (publishGuest package guest) before (.ok entry) after) :
    ∃ made, Settled package guest before made binary (publicationOrder guest) after ∧ entry = .of package guest ∧
      Ready package guest (before.withTree made) binary ∧ Shows current past (before.withTree made) ∧
      Runs (makeDirectories package.publishDirectory) before (.ok ()) (before.withTree made) := by
  obtain ⟨made, found, hsettled, hentry, hready, hmakes⟩ := publishGuest_ok h.free hruns
  have hmade : Shows current past (before.withTree made) := by
    refine h.grows erases hsettled.grows fun location hpasses => outside location ?_
    exact hpasses.isPrefix (package.plain_publishDirectory plain)
  obtain ⟨origin, name, hreaches, hfile⟩ := hready.source
  rw [← hreaches.reaches.location, hmade.location, hmade.shows _ _ source] at hfile
  cases hfile
  exact ⟨made, hsettled, hentry, hready, hmade, hmakes⟩

theorem does_publishGuest (plain : package.manifest.Plain) (erases : ErasesInside inside past)
    (outside : ∀ location, location <+: package.publishDirectory.location → ¬ inside location)
    (source : lastChange past (FileTree.spot (current.map Name.text) guest.path) = some (some binary)) :
    Does current (publishGuest package guest) past (.of package guest) (guestChanges package guest binary) := by
  have helfs : ∀ host : Host, package.elfs host.location = package.publishDirectory.location :=
    fun host => package.elfs_eq plain host.location
  refine ⟨?_, ?_⟩
  · intro before entry after hshows hruns
    obtain ⟨made, hsettled, hentry, -, hmade, -⟩ := hshows.publishes plain erases outside source hruns
    refine ⟨hentry, ?_, fun location => hsettled.directory⟩
    rw [hsettled.after, helfs]
    exact hmade.putAll rfl rfl
  · intro before entry after other hshows hruns hother hthere hopen
    obtain ⟨made, hsettled, -, hready, hmade, hmakes⟩ := hshows.publishes plain erases outside source hruns
    have hlocation : other.location = (before.withTree made).location := hother.location.trans hmade.location.symm
    have hstays : ∀ location, made.get? location = some .directory → other.tree.get? location = some .directory := by
      intro location hdirectory
      apply hthere
      rw [hsettled.after]
      exact FileTree.directory_putSiblings hsettled.open_ hdirectory
    have hagain : Ready package guest other binary := by
      apply hready.mono hlocation hstays
      rw [hmade.location]
      exact hother.shows _ _ source
    have hdirectory : Runs (makeDirectories package.publishDirectory) other (.ok ()) other :=
      run_makeDirectories hother.free ((makeDirectories_enters hshows.free hmakes).mono hlocation hstays)
    have hpublishes := run_publishGuest hother.free hagain hdirectory fun sibling => by
      rw [helfs]
      exact hopen _ (List.mem_map_of_mem (mem_publicationOrder guest sibling))
    rw [helfs] at hpublishes
    exact ⟨_, hpublishes, rfl, rfl⟩

end publishing

end operations

def EndsAs {α : Type} (act other : HostM α) : Prop :=
  ∀ before a after, before.tree.LinkFree → Runs act before (.ok a) after →
    ∃ last, Runs other before (.ok a) last ∧ last.current = after.current ∧ last.tree = after.tree

def BuildStep.changes (current : List Name) : BuildStep → List Change
  | directory _ => []
  | file path bytes => [(FileTree.spot (current.map Name.text) path, some bytes)]

namespace Recipe

def fileChanges (recipe : Recipe) (current : List Name) : List Change :=
  recipe.steps.flatMap (BuildStep.changes current)

def binary (recipe : Recipe) (current : List Name) (guest : BuiltGuest) : List UInt8 :=
  ((lastChange (recipe.fileChanges current) (FileTree.spot (current.map Name.text) guest.path)).getD none).getD []

def changes (recipe : Recipe) (current : List Name) (package : Package) : List Change :=
  recipe.fileChanges current ++
    recipe.guests.flatMap fun guest => guestChanges package guest (recipe.binary current guest)

end Recipe

/-- A builder that follows a recipe for each of the packages, outside all their publish directories, and that reports
guests among the files that it wrote. -/
structure Plan.Follows (plan : Plan) (packages : List Package) (current : List Name) (recipe : Package → Recipe) :
    Prop where
  sound : ∀ package ∈ packages,
    EndsAs (plan.builder package plan.targetDirectory plan.options) (recipe package).follow
  complete : ∀ package ∈ packages,
    EndsAs (recipe package).follow (plan.builder package plan.targetDirectory plan.options)
  outside : ∀ package ∈ packages, ∀ step ∈ (recipe package).steps, ∀ location,
    step.Touches (current.map Name.text) location → ¬ InsideAny packages location
  reports : ∀ package ∈ packages, ∀ guest ∈ (recipe package).guests, ∃ path bytes,
    .file path bytes ∈ (recipe package).steps ∧
      FileTree.spot (current.map Name.text) path = FileTree.spot (current.map Name.text) guest.path

section recipes
variable {current : List Name} {past : List Change} {inside : Location → Prop} {recipe : Recipe}

theorem Does.of_endsAs {α : Type} {act other : HostM α} {a : α} {changes : List Change}
    (h : Does current other past a changes) (sound : EndsAs act other) (complete : EndsAs other act) :
    Does current act past a changes := by
  refine ⟨?_, ?_⟩
  · intro before answer after hshows hruns
    obtain ⟨last, hother, hcurrent, htree⟩ := sound _ _ _ hshows.free hruns
    obtain ⟨hanswer, hlast, hstay⟩ := h.first _ _ _ hshows hother
    exact ⟨hanswer, hlast.of_eq hcurrent.symm htree.symm, fun location hlocation => htree ▸ hstay location hlocation⟩
  · intro before answer after again hshows hruns hagain hthere hopen
    obtain ⟨last, hother, -, htree⟩ := sound _ _ _ hshows.free hruns
    obtain ⟨last', hother', hcurrent', htree'⟩ := h.again _ _ _ _ hshows hother hagain (htree ▸ hthere) hopen
    obtain ⟨final, hact, hcurrent'', htree''⟩ := complete _ _ _ hagain.free hother'
    exact ⟨final, hact, hcurrent''.trans hcurrent', htree''.trans htree'⟩

theorem ErasesInside.append {changes : List Change} (h : ErasesInside inside past)
    (h' : ErasesInside inside changes) : ErasesInside inside (past ++ changes) := by
  intro location hnone
  rcases List.mem_append.1 hnone with hpast | hchanges
  · exact h location hpast
  · exact h' location hchanges

theorem BuildStep.erasesInside (step : BuildStep) : ErasesInside inside (step.changes current) := by
  intro location hnone
  cases step with
  | directory path => cases hnone
  | file path bytes => cases List.mem_singleton.1 hnone

theorem Recipe.erasesInside : ErasesInside inside (recipe.fileChanges current) := by
  intro location hnone
  obtain ⟨step, -, hstep⟩ := List.mem_flatMap.1 hnone
  exact step.erasesInside location hstep

theorem does_step {step : BuildStep} (erases : ErasesInside inside past)
    (outside : ∀ location, step.Touches (current.map Name.text) location → ¬ inside location) :
    Does current step.act past () (step.changes current) := by
  cases step with
  | directory path => exact does_makeDirectories erases outside
  | file path bytes => exact does_writeFile path bytes

theorem does_steps {steps : List BuildStep} (erases : ErasesInside inside past)
    (outside : ∀ step ∈ steps, ∀ location, step.Touches (current.map Name.text) location → ¬ inside location) :
    Does current (steps.forM BuildStep.act) past () (steps.flatMap (BuildStep.changes current)) := by
  induction steps generalizing past with
  | nil => exact does_pure ()
  | cons step rest ih =>
    have hstep := does_step erases (outside step List.mem_cons_self)
    exact hstep.bind (ih (erases.append step.erasesInside) fun other hother =>
      outside other (List.mem_cons_of_mem _ hother))

theorem does_follow (erases : ErasesInside inside past)
    (outside : ∀ step ∈ recipe.steps, ∀ location,
      step.Touches (current.map Name.text) location → ¬ inside location) :
    Does current recipe.follow past recipe.guests (recipe.fileChanges current) := by
  have hreport : Does current (pure recipe.guests : HostM _) (past ++ recipe.fileChanges current) recipe.guests [] :=
    does_pure _
  rw [← List.append_nil (recipe.fileChanges current)]
  exact (does_steps erases outside).bind hreport

/-- The binary of a guest is what the steps write last where its path leads to. -/
theorem lastChange_binary {guest : BuiltGuest} (reported : ∃ path bytes, .file path bytes ∈ recipe.steps ∧
      FileTree.spot (current.map Name.text) path = FileTree.spot (current.map Name.text) guest.path) :
    lastChange (recipe.fileChanges current) (FileTree.spot (current.map Name.text) guest.path) =
      some (some (recipe.binary current guest)) := by
  obtain ⟨path, bytes, hstep, hspot⟩ := reported
  have hchange : (FileTree.spot (current.map Name.text) path, some bytes) ∈ recipe.fileChanges current :=
    List.mem_flatMap.2 ⟨_, hstep, List.mem_singleton.2 rfl⟩
  obtain ⟨content, hlast⟩ := exists_lastChange hchange
  rw [hspot] at hlast
  cases content with
  | none =>
    have hnowhere : ErasesInside (fun _ => False) (recipe.fileChanges current) := Recipe.erasesInside
    exact (hnowhere _ (lastChange_mem hlast)).elim
  | some binary =>
    have hbinary : recipe.binary current guest = binary := by
      rw [Recipe.binary, hlast]
      rfl
    rw [hlast, hbinary]

end recipes

section packages
variable {plan : Plan} {packages : List Package} {current : List Name} {recipe : Package → Recipe}
  {past : List Change}

theorem guestChanges_inside {package : Package} (hpackage : package ∈ packages) {guest : BuiltGuest}
    {binary : List UInt8} {change : Change} (h : change ∈ guestChanges package guest binary) :
    InsideAny packages change.1 := by
  obtain ⟨sibling, -, rfl⟩ := List.mem_map.1 h
  exact ⟨package, hpackage, inside_siblingAt _ _ _⟩

theorem lastChange_source {package : Package} (follows : plan.Follows packages current recipe)
    (hpackage : package ∈ packages) {guest : BuiltGuest} (hguest : guest ∈ (recipe package).guests)
    {changes : List Change} (inside : ∀ change ∈ changes, InsideAny packages change.1) :
    lastChange (past ++ changes) (FileTree.spot (current.map Name.text) guest.path) =
      lastChange past (FileTree.spot (current.map Name.text) guest.path) := by
  obtain ⟨path, bytes, hstep, hspot⟩ := follows.reports package hpackage guest hguest
  rw [lastChange_append, lastChange_eq_none, Option.none_or]
  intro change hchange hsame
  exact follows.outside package hpackage _ hstep _ (hspot.trans hsame.symm) (inside change hchange)

/-- What the changes made so far must keep for the guests of a package to be published. -/
structure Sourced (packages : List Package) (current : List Name) (recipe : Recipe) (past : List Change) : Prop where
  erases : ErasesInside (InsideAny packages) past
  source : ∀ guest ∈ recipe.guests, lastChange past (FileTree.spot (current.map Name.text) guest.path) =
    some (some (recipe.binary current guest))

theorem does_publishAll {package : Package} (follows : plan.Follows packages current recipe)
    (plain : package.manifest.Plain) (apart : Apart packages) (hpackage : package ∈ packages)
    (sourced : Sourced packages current (recipe package) past) :
    Does current ((recipe package).guests.mapM fun guest => publishGuest package guest) past
      ((recipe package).guests.map (.of package))
      ((recipe package).guests.flatMap fun guest =>
        guestChanges package guest ((recipe package).binary current guest)) := by
  refine does_mapM (P := Sourced packages current (recipe package)) ?_ ?_ sourced
  · intro guest hguest past hsourced
    exact does_publishGuest plain hsourced.erases (fun location hoff hinside => apart.off hinside hpackage hoff)
      (hsourced.source guest hguest)
  · intro guest _ past hsourced
    have hinside : ∀ change ∈ guestChanges package guest ((recipe package).binary current guest),
        InsideAny packages change.1 := fun _ => guestChanges_inside hpackage
    refine ⟨hsourced.erases.append fun location hnone => hinside _ hnone, fun other hother => ?_⟩
    rw [lastChange_source follows hpackage hother hinside]
    exact hsourced.source other hother

theorem does_package {package : Package} (follows : plan.Follows packages current recipe)
    (plain : package.manifest.Plain) (apart : Apart packages) (hpackage : package ∈ packages)
    (erases : ErasesInside (InsideAny packages) past) :
    Does current (plan.onHost package) past ((recipe package).guests.map (.of package))
      ((recipe package).changes current package) := by
  have hbuild := (does_follow erases (follows.outside package hpackage)).of_endsAs
    (follows.sound package hpackage) (follows.complete package hpackage)
  refine hbuild.bind (does_publishAll follows plain apart hpackage ⟨erases.append Recipe.erasesInside, ?_⟩)
  intro guest hguest
  rw [lastChange_append, lastChange_binary (follows.reports package hpackage guest hguest)]
  rfl

/-- All that a completed run over packages changes is told by the recipes. -/
theorem does_packages (follows : plan.Follows packages current recipe)
    (plain : ∀ package ∈ packages, package.manifest.Plain) (apart : Apart packages) :
    Does current (packages.mapM plan.onHost) [] (packages.map fun package => (recipe package).guests.map (.of package))
      (packages.flatMap fun package => (recipe package).changes current package) := by
  refine does_mapM (P := ErasesInside (InsideAny packages)) ?_ ?_ ?_
  · intro package hpackage past herases
    exact does_package follows (plain package hpackage) apart hpackage herases
  · intro package hpackage past herases
    refine herases.append (Recipe.erasesInside.append fun location hnone => ?_)
    obtain ⟨guest, -, hguest⟩ := List.mem_flatMap.1 hnone
    exact guestChanges_inside hpackage hguest
  · intro location hnone
    cases hnone

end packages

section repeated
variable {α : Type} {current : List Name} {act : HostM α} {a : α} {changes : List Change} {before after : Host}

theorem shows_nil (hcurrent : before.current = current) (free : before.tree.LinkFree) : Shows current [] before :=
  ⟨hcurrent, free, fun _ _ hlast => by cases hlast⟩

/-- Whatever was there before, the same is there afterwards. -/
theorem Does.settles (h : Does current act [] a changes) (hbefore : Shows current [] before) {answer : α}
    (hruns : Runs act before (.ok answer) after) {change : Change} (hchange : change ∈ changes) :
    ∃ content, lastChange changes change.1 = some content ∧ after.tree.get? change.1 = content.map .file := by
  obtain ⟨-, hafter, -⟩ := h.first _ _ _ hbefore hruns
  obtain ⟨content, hlast⟩ := exists_lastChange hchange
  exact ⟨content, hlast, hafter.shows _ _ hlast⟩

/-- The tree that a run leaves is left as it is by the next. -/
theorem Does.repeats (h : Does current act [] a changes) (hbefore : Shows current [] before) {answer : α}
    (hruns : Runs act before (.ok answer) after) :
    ∃ last, Runs act after (.ok a) last ∧ last.current = current ∧ last.tree = after.tree := by
  obtain ⟨-, hafter, -⟩ := h.first _ _ _ hbefore hruns
  have hopen : ∀ change ∈ changes, after.tree.get? change.1 ≠ some .directory := by
    intro change hchange
    obtain ⟨content, -, hfile⟩ := h.settles hbefore hruns hchange
    rw [hfile]
    cases content <;> simp
  obtain ⟨last, hagain, hcurrent, htree⟩ := h.again before answer after after hbefore hruns
    (shows_nil hafter.current hafter.free) (fun _ => id) hopen
  exact ⟨last, hagain, hcurrent.trans hafter.current, htree.trans (FileTree.putAll_eq_self hafter.shows)⟩

end repeated

section bake
variable {workspace : Workspace} {builder : Builder} {configuration : Configuration} {selection : Selection}
  {root : Option Path} {before after : Session} {result : BakeResult}

theorem plan_congr {host other : Host} (h : other.current = host.current) :
    workspace.plan builder configuration root other = workspace.plan builder configuration root host := by
  rw [Workspace.plan, Workspace.plan, Host.currentDirectory, h]
  rfl

def SameFiles (packages : List Package) (recipe : Package → Recipe) (tree other : FileTree) : Prop :=
  ∀ package ∈ packages, ∀ guest ∈ (recipe package).guests, ∀ sibling,
    tree.get? (siblingAt package.publishDirectory.location guest.path.stem sibling) =
      other.get? (siblingAt package.publishDirectory.location guest.path.stem sibling)

/-- With a builder that follows recipes, the report and the published files do not depend on what was there before,
and another run repeats the report and leaves the tree as it is. -/
theorem bake_repeats {recipe : Package → Recipe} (free : before.host.tree.LinkFree)
    (plain : ∀ package ∈ workspace.guests selection, package.manifest.Plain)
    (apart : Apart (workspace.guests selection))
    (follows : (workspace.plan builder configuration root before.host).Follows (workspace.guests selection)
      before.host.current recipe)
    (h : Runs (bake workspace builder configuration selection root) before (.ok result) after) :
    result.guests = (workspace.guests selection).flatMap (fun package => (recipe package).guests.map (.of package)) ∧
    (∀ (other : Session) (otherResult : BakeResult) (otherAfter : Session),
      other.host.current = before.host.current → other.host.tree.LinkFree →
      Runs (bake workspace builder configuration selection root) other (.ok otherResult) otherAfter →
      otherResult = result ∧
        SameFiles (workspace.guests selection) recipe otherAfter.host.tree after.host.tree) ∧
    ∃ last, Runs (bake workspace builder configuration selection root) after (.ok result) last ∧
      last.host.tree = after.host.tree := by
  have hdoes := does_packages follows plain apart
  have hshows := shows_nil rfl free
  obtain ⟨lists, hruns, -, rfl⟩ := runs_bake_onHost.1 h
  obtain ⟨rfl, hafter, -⟩ := hdoes.first _ _ _ hshows hruns
  refine ⟨(List.flatMap_def ..).symm, ?_, ?_⟩
  · intro other otherResult otherAfter hcurrent hfree hother
    obtain ⟨lists, hruns', -, rfl⟩ := runs_bake_onHost.1 hother
    rw [plan_congr hcurrent] at hruns'
    have hshows' := shows_nil hcurrent hfree
    obtain ⟨rfl, -, -⟩ := hdoes.first _ _ _ hshows' hruns'
    refine ⟨rfl, fun package hpackage guest hguest sibling => ?_⟩
    have hchange : (siblingAt package.publishDirectory.location guest.path.stem sibling,
        guest.content ((recipe package).binary before.host.current guest) sibling) ∈
          (workspace.guests selection).flatMap fun package => (recipe package).changes before.host.current package := by
      refine List.mem_flatMap.2 ⟨package, hpackage, List.mem_append_right _ (List.mem_flatMap.2 ⟨guest, hguest, ?_⟩)⟩
      exact List.mem_map.2 ⟨sibling, mem_publicationOrder guest sibling, rfl⟩
    obtain ⟨content, hlast, hfile⟩ := hdoes.settles hshows hruns hchange
    obtain ⟨content', hlast', hfile'⟩ := hdoes.settles hshows' hruns' hchange
    rw [hlast] at hlast'
    cases hlast'
    exact hfile'.trans hfile.symm
  · obtain ⟨last, hagain, -, htree⟩ := hdoes.repeats hshows hruns
    rw [← plan_congr hafter.current] at hagain
    exact ⟨⟨last, _⟩, runs_bake_onHost.2 ⟨_, hagain, rfl, rfl⟩, htree⟩

theorem bake_repeats_small : ∃ result after freshAfter last,
    result.guests = [.of Small.package Small.guest] ∧
    Runs (bake Small.workspace Small.builder {} {} none) ⟨Small.host, []⟩ (.ok result) after ∧
    Runs (bake Small.workspace Small.builder {} {} none) ⟨Small.fresh, []⟩ (.ok result) freshAfter ∧
    SameFiles (Small.workspace.guests {}) (fun _ => Small.recipe) freshAfter.host.tree after.host.tree ∧
    Runs (bake Small.workspace Small.builder {} {} none) after (.ok result) last ∧
      last.host.tree = after.host.tree := by
  have hfollows : (Small.workspace.plan Small.builder {} none Small.host).Follows (Small.workspace.guests {})
      Small.host.current fun _ => Small.recipe := by
    have hsame : EndsAs Small.recipe.follow Small.recipe.follow := fun _ _ after _ hruns => ⟨after, hruns, rfl, rfl⟩
    refine ⟨fun _ _ => hsame, fun _ _ => hsame, ?_, ?_⟩
    · exact fun _ _ _ hstep _ htouches => Small.outside hstep htouches
    · intro _ _ guest hguest
      rw [List.mem_singleton.1 hguest]
      exact ⟨Small.binary, [7], List.mem_cons_of_mem _ List.mem_cons_self, rfl⟩
  obtain ⟨after, hruns⟩ : ∃ after,
      Runs (bake Small.workspace Small.builder {} {} none) ⟨Small.host, []⟩ (.ok Small.result) after :=
    ⟨_, runs_of_toOption (by decide +kernel)⟩
  obtain ⟨freshAfter, hfresh⟩ : ∃ after,
      Runs (bake Small.workspace Small.builder {} {} none) ⟨Small.fresh, []⟩ (.ok Small.result) after :=
    ⟨_, runs_of_toOption (by decide +kernel)⟩
  obtain ⟨-, hsame, last, hlast, htree⟩ := bake_repeats Small.linkFree Small.plain Small.apart hfollows hruns
  obtain ⟨-, hfiles⟩ := hsame ⟨Small.fresh, []⟩ _ _ rfl Small.linkFree_fresh hfresh
  exact ⟨Small.result, after, freshAfter, last, by decide +kernel, hruns, hfresh, hfiles, hlast, htree⟩

end bake

end GuestForge
