import GuestForge.Proofs.EffectBoundaries
import GuestForge.Proofs.TwoRuns
set_option autoImplicit false

/-!
# The same at another time

What a host does depends on its clock only in the time stamps that are written to logs. Two hosts match if they are the
same but for the clock and for bytes that stem from its stamps; on matching hosts a build and a publication answer alike,
and leave hosts that match. What the two clocks show at a time has the same length, as all stamps of one format do.
-/
namespace GuestForge
open HostM

section matching
variable (clock clock' : Clock)

inductive Clock.Shows : String → String → Prop where
  | started (count : Nat) : Shows (clock.started count) (clock'.started count)
  | ended (count : Nat) : Shows (clock.ended count) (clock'.ended count)

def Clock.SameLength : Prop :=
  ∀ stamp stamp', clock.Shows clock' stamp stamp' → stamp.utf8ByteSize = stamp'.utf8ByteSize

/-- Two bytes that are the same, or stand at the same place of two time stamps. -/
def SameByte (byte byte' : UInt8) : Prop :=
  byte = byte' ∨ ∃ stamp stamp', clock.Shows clock' stamp stamp' ∧
    (byte, byte') ∈ (External.bytesOf stamp).zip (External.bytesOf stamp')

def SameText : List UInt8 → List UInt8 → Prop := List.Forall₂ (SameByte clock clock')

inductive Entry.Matches : Entry → Entry → Prop where
  | directory : Matches .directory .directory
  | file {bytes bytes' : List UInt8} (same : SameText clock clock' bytes bytes') :
      Matches (.file bytes) (.file bytes')
  | link (target : String) : Matches (.link target) (.link target)

def FileTree.Matches (tree other : FileTree) : Prop :=
  ∀ location, Option.Rel (Entry.Matches clock clock') (tree.get? location) (other.get? location)

inductive FileTree.Reached.Matches : Reached → Reached → Prop where
  | entry (location : Location) {entry entry' : Entry} (same : entry.Matches clock clock' entry') :
      Matches (.entry location entry) (.entry location entry')
  | vacant (directory : Location) (name : String) : Matches (.vacant directory name) (.vacant directory name)

/-- Two hosts at two times that are the same but for the time. -/
structure Host.Matches (host other : Host) : Prop where
  time : host.clock = clock
  time' : other.clock = clock'
  console : host.console = other.console
  current : host.current = other.current
  outcomes : host.outcomes = other.outcomes
  calls : host.calls = other.calls
  tree : host.tree.Matches clock clock' other.tree

end matching

section texts
variable {clock clock' : Clock}

theorem SameText.refl (bytes : List UInt8) : SameText clock clock' bytes bytes :=
  List.forall₂_same.2 fun _ _ => .inl rfl

theorem SameText.append {first first' second second' : List UInt8} (h : SameText clock clock' first first')
    (h' : SameText clock clock' second second') : SameText clock clock' (first ++ second) (first' ++ second') :=
  List.rel_append h h'

theorem Entry.Matches.refl (entry : Entry) : entry.Matches clock clock' entry := by
  cases entry with
  | directory => exact .directory
  | file bytes => exact .file (.refl bytes)
  | link target => exact .link target

theorem Host.Matches.of_clock (host : Host) :
    Host.Matches clock clock' { host with clock := clock } { host with clock := clock' } where
  time := rfl
  time' := rfl
  console := rfl
  current := rfl
  outcomes := rfl
  calls := rfl
  tree := by
    intro location
    change Option.Rel _ (host.tree.get? location) (host.tree.get? location)
    cases host.tree.get? location with
    | none => exact .none
    | some entry => exact .some (.refl entry)

theorem SameText.eq {bytes bytes' : List UInt8} (h : SameText clock clock bytes bytes') : bytes = bytes' := by
  rw [← List.forall₂_eq_eq_eq]
  refine h.imp ?_
  rintro byte byte' (hsame | ⟨stamp, stamp', hshows, hzip⟩)
  · exact hsame
  · obtain rfl : stamp = stamp' := by cases hshows <;> rfl
    exact List.forall₂_zip (List.forall₂_refl _) hzip

theorem Entry.Matches.eq {entry entry' : Entry} (h : entry.Matches clock clock entry') : entry = entry' := by
  cases h with
  | directory => rfl
  | file same => rw [same.eq]
  | link target => rfl

theorem Host.Matches.eq {host other : Host} (h : host.Matches clock clock other) : host = other := by
  obtain ⟨tree, current, time, outcomes, calls, console⟩ := host
  obtain ⟨tree', current', time', outcomes', calls', console'⟩ := other
  have htree : tree = tree' := by
    ext location : 1
    have hget : Option.Rel (Entry.Matches clock clock) (tree.get? location) (tree'.get? location) := h.tree location
    generalize tree.get? location = entry, tree'.get? location = entry' at hget ⊢
    cases hget with
    | none => rfl
    | some same => rw [same.eq]
  obtain rfl : current = current' := h.current
  obtain rfl : time = time' := h.time.trans h.time'.symm
  obtain rfl : console = console' := h.console
  obtain rfl : outcomes = outcomes' := h.outcomes
  obtain rfl : calls = calls' := h.calls
  rw [htree]

theorem bytesOf_append (text more : String) :
    External.bytesOf (text ++ more) = External.bytesOf text ++ External.bytesOf more := by
  simp [External.bytesOf, String.toUTF8]

theorem length_bytesOf (text : String) : (External.bytesOf text).length = text.utf8ByteSize := by
  simp [External.bytesOf, String.toUTF8]

theorem sameText_stamp (length : clock.SameLength clock') {stamp stamp' : String} (h : clock.Shows clock' stamp stamp') :
    SameText clock clock' (External.bytesOf stamp) (External.bytesOf stamp') :=
  List.forall₂_iff_zip.2 ⟨by rw [length_bytesOf, length_bytesOf, length _ _ h], fun hzip => .inr ⟨stamp, stamp', h, hzip⟩⟩

theorem SameText.concat {text text' more more' : String}
    (h : SameText clock clock' (External.bytesOf text) (External.bytesOf text'))
    (h' : SameText clock clock' (External.bytesOf more) (External.bytesOf more')) :
    SameText clock clock' (External.bytesOf (text ++ more)) (External.bytesOf (text' ++ more')) := by
  rw [bytesOf_append, bytesOf_append]
  exact h.append h'

theorem sameText_logHeader (length : clock.SameLength clock') {stamp stamp' : String}
    (h : clock.Shows clock' stamp stamp') (words : List String) :
    SameText clock clock' (External.bytesOf (External.logHeader words stamp))
      (External.bytesOf (External.logHeader words stamp')) := by
  refine SameText.concat (.concat (.concat (.concat ?_ (sameText_stamp length h)) ?_) ?_) ?_
  all_goals exact .refl _

theorem sameText_logTrailer (length : clock.SameLength clock') {stamp stamp' : String}
    (h : clock.Shows clock' stamp stamp') (code : Int) :
    SameText clock clock' (External.bytesOf (External.logTrailer code stamp))
      (External.bytesOf (External.logTrailer code stamp')) := by
  refine SameText.concat (.concat (.concat (.concat ?_ (sameText_stamp length h)) ?_) ?_) ?_
  all_goals exact .refl _

theorem Host.Matches.shows_startTime {host other : Host} (h : host.Matches clock clock' other) :
    clock.Shows clock' host.startTime other.startTime := by
  rw [Host.startTime, Host.startTime, h.time, h.time', h.calls]
  exact .started _

theorem Host.Matches.shows_endTime {host other : Host} (h : host.Matches clock clock' other) :
    clock.Shows clock' host.endTime other.endTime := by
  rw [Host.endTime, Host.endTime, h.time, h.time', h.calls]
  exact .ended _

end texts

namespace FileTree
variable {clock clock' : Clock} {tree other : FileTree} {current location : Location} {path : Path}

theorem Matches.set (h : tree.Matches clock clock' other) (location : Location) {entry entry' : Entry}
    (same : entry.Matches clock clock' entry') :
    (tree.set location entry).Matches clock clock' (other.set location entry') := by
  intro there
  rw [get?_set, get?_set]
  split
  · exact .some same
  · exact h there

theorem Matches.erase (h : tree.Matches clock clock' other) (location : Location) :
    (tree.erase location).Matches clock clock' (other.erase location) := by
  intro there
  rw [get?_erase, get?_erase]
  split
  · exact .none
  · exact h there

/-- By induction on the links that may still be followed, and for these on the steps. -/
theorem Matches.walkFrom (h : tree.Matches clock clock' other) (aim : Aim) (links : Nat) (here : Location)
    (steps : List String) : Answers (Reached.Matches clock clock') (tree.walkFrom aim links here steps)
      (other.walkFrom aim links here steps) := by
  induction links using Nat.strongRecOn generalizing here steps with
  | ind links fewer =>
  induction steps generalizing here with
  | nil =>
    rw [walkFrom_nil, walkFrom_nil]
    exact .ok (.entry here .directory)
  | cons step rest ih =>
    by_cases hidle : step = "" ∨ step = "."
    · rw [walkFrom_idle hidle, walkFrom_idle hidle]
      exact ih here
    by_cases hup : step = ".."
    · rw [hup, walkFrom_up, walkFrom_up]
      exact ih _
    rw [walkFrom_cons hidle hup, walkFrom_cons hidle hup]
    split
    · exact .error _
    split
    · exact .error _
    have hget := h (here ++ [step])
    generalize tree.get? (here ++ [step]) = entry, other.get? (here ++ [step]) = entry' at hget ⊢
    cases hget with
    | none =>
      dsimp only
      split
      · exact .ok (.vacant here step)
      · exact .error _
    | some same =>
      cases same with
      | directory => exact ih _
      | file same =>
        dsimp only
        split
        · exact .ok (.entry _ (.file same))
        · exact .error _
      | link target =>
        dsimp only
        split
        · exact .ok (.entry _ (.link target))
        · cases links with
          | zero => exact .error _
          | succ links => exact fewer links (Nat.lt_succ_self links) _ _

theorem Matches.walk (h : tree.Matches clock clock' other) (current : Location) (aim : Aim) (path : Path) :
    Answers (Reached.Matches clock clock') (tree.walk current aim path) (other.walk current aim path) := by
  unfold FileTree.walk
  split
  · exact .error _
  · exact h.walkFrom aim 40 _ _

def SameFound (clock clock' : Clock) (found found' : Location × Entry) : Prop :=
  found.1 = found'.1 ∧ found.2.Matches clock clock' found'.2

theorem Matches.status (h : tree.Matches clock clock' other) (current : Location) (path : Path) :
    Answers (SameFound clock clock') (tree.status current path) (other.status current path) := by
  refine (h.walk current .follow path).bind fun found found' hfound => ?_
  cases hfound with
  | entry location same => exact .ok ⟨rfl, same⟩
  | vacant directory name => exact .error _

theorem Matches.writeLocation (h : tree.Matches clock clock' other) (current : Location) (path : Path) :
    Answers Eq (tree.writeLocation current path) (other.writeLocation current path) := by
  refine (h.walk current .write path).bind fun found found' hfound => ?_
  cases hfound with
  | vacant directory name => exact .ok rfl
  | entry location same =>
    cases same with
    | directory => exact .error _
    | file same => exact .ok rfl
    | link target => exact .ok rfl

theorem Matches.read (h : tree.Matches clock clock' other) (current : Location) (path : Path) :
    Answers (SameText clock clock') (tree.read current path) (other.read current path) := by
  refine (h.status current path).bind fun found found' hfound => ?_
  obtain ⟨location, entry⟩ := found
  obtain ⟨_, entry'⟩ := found'
  obtain ⟨rfl, same⟩ := hfound
  cases same with
  | directory => exact .error _
  | file same => exact .ok same
  | link target => exact .error _

theorem Matches.makeDirectory (h : tree.Matches clock clock' other) (current : Location) (path : Path) :
    Answers (Matches clock clock') (tree.makeDirectory current path) (other.makeDirectory current path) := by
  refine (h.walk current .stay path).bind fun found found' hfound => ?_
  cases hfound with
  | entry location same => exact .error _
  | vacant directory name => exact .ok (h.set _ .directory)

theorem Matches.unlink (h : tree.Matches clock clock' other) (current : Location) (path : Path) :
    Answers (Matches clock clock') (tree.unlink current path) (other.unlink current path) := by
  refine (h.walk current .stay path).bind fun found found' hfound => ?_
  cases hfound with
  | vacant directory name => exact .error _
  | entry location same =>
    cases same with
    | directory => exact .error _
    | file same => exact .ok (h.erase location)
    | link target => exact .ok (h.erase location)

end FileTree

namespace HostM
variable {clock clock' : Clock} {α β : Type} {same : α → β → Prop} {path : Path}

theorem agree_fail (fault : Fault) :
    Agree (Host.Matches clock clock') same (fail fault : HostM α) (fail fault : HostM β) := Agree.throw fault

theorem agree_orElse {act : HostM α} {act' : HostM β} {handle : SystemError → HostM α} {handle' : SystemError → HostM β}
    (first : Agree (Host.Matches clock clock') same act act')
    (rest : ∀ error, Agree (Host.Matches clock clock') same (handle error) (handle' error)) :
    Agree (Host.Matches clock clock') same (orElse act handle) (orElse act' handle') := by
  refine Agree.tryCatch first fun fault => ?_
  cases fault with
  | system error => exact rest error
  | _ => exact Agree.throw _

theorem agree_get : Agree (Host.Matches clock clock') (Host.Matches clock clock') (get : HostM Host) get :=
  fun host other h => ⟨.ok host, .ok other, host, other, rfl, rfl, .ok h, h⟩

theorem agree_ask (path : Path) {question : FileTree → Location → Path → Except ErrorCode α}
    {question' : FileTree → Location → Path → Except ErrorCode β}
    (alike : ∀ tree other : FileTree, tree.Matches clock clock' other → ∀ current,
      Answers same (question tree current path) (question' other current path)) :
    Agree (Host.Matches clock clock') same (ask path question) (ask path question') := by
  intro host other h
  refine ⟨_, _, host, other, runs_ask.2 ⟨rfl, rfl⟩, runs_ask.2 ⟨rfl, rfl⟩, ?_, h⟩
  have hlocation : other.location = host.location := by rw [Host.location, Host.location, h.current]
  rw [hlocation]
  split
  · exact .error _
  · have halike := alike _ _ h.tree host.location
    generalize question host.tree host.location path = answer, question' other.tree host.location path = answer'
      at halike
    cases halike with
    | ok hsame => exact .ok hsame
    | error code => exact .error _

theorem agree_setTree {tree other : FileTree} (h : tree.Matches clock clock' other) :
    Agree (Host.Matches clock clock') Eq (setTree tree) (setTree other) :=
  fun _ _ hosts => ⟨_, _, _, _, rfl, rfl, .ok rfl, { hosts with tree := h }⟩

theorem agree_setEntry (location : Location) {entry entry' : Entry} (h : entry.Matches clock clock' entry') :
    Agree (Host.Matches clock clock') Eq (setEntry location entry) (setEntry location entry') :=
  fun _ _ hosts => ⟨_, _, _, _, rfl, rfl, .ok rfl, { hosts with tree := hosts.tree.set location h }⟩

theorem agree_fileAt (location : Location) :
    Agree (Host.Matches clock clock') (SameText clock clock') (fileAt location) (fileAt location) := by
  refine Agree.bind agree_get fun host other hosts => ?_
  have hget := hosts.tree location
  generalize host.tree.get? location = entry, other.tree.get? location = entry' at hget ⊢
  cases hget with
  | none => exact Agree.pure (.refl [])
  | some same =>
    cases same with
    | directory => exact Agree.pure (.refl [])
    | file same => exact Agree.pure same
    | link target => exact Agree.pure (.refl [])

theorem agree_writeFile (path : Path) {bytes bytes' : List UInt8} (h : SameText clock clock' bytes bytes') :
    Agree (Host.Matches clock clock') Eq (writeFile path bytes) (writeFile path bytes') := by
  refine Agree.bind (agree_ask path fun tree other trees current => trees.writeLocation current path) ?_
  rintro location _ rfl
  exact agree_setEntry location (.file h)

theorem agree_appendFile (path : Path) {bytes bytes' : List UInt8} (h : SameText clock clock' bytes bytes') :
    Agree (Host.Matches clock clock') Eq (appendFile path bytes) (appendFile path bytes') := by
  refine Agree.bind (agree_ask path fun tree other trees current => trees.writeLocation current path) ?_
  rintro location _ rfl
  exact Agree.bind (agree_fileAt location) fun old old' hold => agree_setEntry location (.file (hold.append h))

theorem agree_writeAt (location : Location) (offset : Nat) (bytes : List UInt8) :
    Agree (Host.Matches clock clock') Eq (writeAt location offset bytes) (writeAt location offset bytes) := by
  refine Agree.ite Iff.rfl (Agree.pure rfl) (Agree.bind (agree_fileAt location) fun old old' hold => ?_)
  have hlength : old.length = old'.length := List.Forall₂.length_eq hold
  have hhead : SameText clock clock' (old.take offset ++ List.replicate (offset - old.length) 0)
      (old'.take offset ++ List.replicate (offset - old'.length) 0) := by
    rw [hlength]
    exact SameText.append (List.forall₂_take offset hold) (.refl _)
  exact agree_setEntry location (.file ((hhead.append (.refl bytes)).append (List.forall₂_drop _ hold)))

theorem agree_unlink (path : Path) : Agree (Host.Matches clock clock') Eq (unlink path) (unlink path) :=
  Agree.bind (agree_ask path fun _ _ trees current => trees.unlink current path) fun _ _ trees => agree_setTree trees

theorem agree_entry (path : Path) :
    Agree (Host.Matches clock clock') (Option.Rel (Entry.Matches clock clock')) ( entry? path) ( entry? path) := by
  refine Agree.tryCatch (Agree.bind (agree_ask path fun _ _ trees current => trees.status current path)
    fun found found' hfound => Agree.pure (.some hfound.2)) fun fault => ?_
  split
  · exact Agree.pure .none
  · exact Agree.ite Iff.rfl (Agree.pure .none) (Agree.throw _)
  · exact Agree.throw _

theorem agree_pathExists (path : Path) :
    Agree (Host.Matches clock clock') Eq (pathExists path) (pathExists path) := by
  refine Agree.bind (agree_entry path) fun found found' hfound => Agree.pure ?_
  cases hfound <;> rfl

theorem agree_isDirectory (path : Path) :
    Agree (Host.Matches clock clock') Eq (isDirectory path) (isDirectory path) := by
  refine Agree.bind (agree_entry path) fun found found' hfound => Agree.pure ?_
  cases hfound with
  | none => rfl
  | some same => cases same <;> simp

theorem agree_makeDirectory (path : Path) :
    Agree (Host.Matches clock clock') Eq (makeDirectory path) (makeDirectory path) := by
  refine agree_orElse (Agree.bind (agree_ask path fun _ _ trees current => trees.makeDirectory current path)
    fun _ _ trees => agree_setTree trees) fun error => Agree.ite Iff.rfl (agree_fail _) ?_
  refine Agree.bind (agree_isDirectory path) ?_
  rintro found _ rfl
  exact Agree.ite Iff.rfl (Agree.pure rfl) (agree_fail _)

theorem agree_makeDirectories (path : Path) :
    Agree (Host.Matches clock clock') Eq (makeDirectories path) (makeDirectories path) := by
  unfold makeDirectories
  induction path.names.reverse with
  | nil => exact agree_makeDirectory _
  | cons name outer ih =>
    refine agree_orElse (agree_makeDirectory _) fun error => Agree.ite Iff.rfl ?_ (agree_fail _)
    exact Agree.bind ih fun _ _ _ => agree_makeDirectory _

theorem agree_placeFile (path : Path) (bytes : List UInt8) :
    Agree (Host.Matches clock clock') Eq (placeFile path bytes) (placeFile path bytes) :=
  Agree.bind (agree_makeDirectories path.parent) fun _ _ _ => agree_writeFile path (.refl bytes)

theorem agree_comesTo (call : Call) (outcome : Option Outcome) :
    Agree (Host.Matches clock clock') Eq (comesTo call outcome) (comesTo call outcome) := by
  match outcome with
  | none => exact agree_fail _
  | some (.refused _) => exact agree_fail _
  | some (.ended _ _ _ files) =>
    refine Agree.bind (Agree.forM (fun file => ?_) files) fun _ _ _ => Agree.pure rfl
    exact agree_placeFile file.1 file.2

theorem agree_startProcess (call : Call) :
    Agree (Host.Matches clock clock') Eq (startProcess call) (startProcess call) := by
  refine Agree.bind agree_get fun host other hosts => ?_
  have hcalled : Agree (Host.Matches clock clock') Eq (set (host.called call) : HostM PUnit) (set (other.called call)) :=
    fun _ _ _ => ⟨_, _, _, _, rfl, rfl, .ok rfl, { hosts with
      calls := congrArg (· ++ [call]) hosts.calls
      outcomes := congrArg List.tail hosts.outcomes }⟩
  rw [hosts.outcomes]
  exact Agree.bind hcalled fun _ _ _ => Agree.ite Iff.rfl (agree_fail _) (agree_comesTo call _)

/-- An entry that two paths lead to is at one location and of one kind, and what a file has there is in the tree. -/
theorem found_eq_iff {tree other : FileTree} {current : Location} {source target : Path}
    {found found' last last' : Location × Entry} (same : FileTree.SameFound clock clock' found found')
    (same' : FileTree.SameFound clock clock' last last') (hfound : tree.status current source = .ok found)
    (hlast : tree.status current target = .ok last) (hfound' : other.status current source = .ok found')
    (hlast' : other.status current target = .ok last') : found = last ↔ found' = last' := by
  have hfile : ∀ {tree : FileTree} {path location bytes},
      tree.status current path = .ok (location, .file bytes) → tree.get? location = some (.file bytes) :=
    fun h => (FileTree.walk_iff.1 (FileTree.status_iff.1 h)).2.stands
  obtain ⟨location, entry⟩ := found
  obtain ⟨_, entry'⟩ := found'
  obtain ⟨end_, there⟩ := last
  obtain ⟨_, there'⟩ := last'
  obtain ⟨rfl, hentry⟩ := same
  obtain ⟨rfl, hthere⟩ := same'
  rw [Prod.mk.injEq, Prod.mk.injEq]
  refine and_congr_right fun hlocation => ?_
  subst hlocation
  cases hentry with
  | directory => cases hthere <;> simp
  | link target => cases hthere <;> simp
  | file hbytes =>
    cases hthere with
    | directory => simp
    | link target => simp
    | file hbytes' =>
      have hsame := (hfile hfound).symm.trans (hfile hlast)
      have hsame' := (hfile hfound').symm.trans (hfile hlast')
      exact iff_of_true (Option.some.inj hsame) (Option.some.inj hsame')

theorem sameEntry_iff {host other : Host} (hosts : host.Matches clock clock' other) (source target : Path) :
    host.SameEntry source target ↔ other.SameEntry source target := by
  have hlocation : other.location = host.location := by rw [Host.location, Host.location, hosts.current]
  unfold Host.SameEntry
  rw [hlocation]
  rcases (hosts.tree.status host.location source).elim with ⟨found, found', hfound, hfound', same⟩ | ⟨_, hcode, hcode'⟩
  · rcases (hosts.tree.status host.location target).elim with ⟨last, last', hlast, hlast', same'⟩ | ⟨_, hcode, hcode'⟩
    · have hiff := found_eq_iff same same' hfound hlast hfound' hlast'
      simpa [hfound, hfound', hlast, hlast', eq_comm] using hiff
    · simp [hcode, hcode']
  · simp [hcode, hcode']

theorem agree_found (path : Path) : Agree (Host.Matches clock clock') (Option.Rel (FileTree.SameFound clock clock'))
    (found? path) (found? path) :=
  agree_orElse (Agree.bind (agree_ask path fun _ _ trees current => trees.status current path)
    fun _ _ hfound => Agree.pure (.some hfound)) fun _ => Agree.pure .none

theorem agree_copyBytes (source target : Path) :
    Agree (Host.Matches clock clock') Eq (copyBytes source target) (copyBytes source target) := by
  refine Agree.bind (agree_ask source fun _ _ trees current => trees.read current source) fun _ _ hbytes => ?_
  refine agree_orElse (agree_writeFile target hbytes) fun error => Agree.ite Iff.rfl ?_ (agree_fail _)
  refine Agree.bind (agree_found target) fun found found' hfound => Agree.ite ?_ (agree_fail _) (agree_fail _)
  cases hfound <;> simp

/-- Whether a file is to be copied over itself depends on where the paths lead, not on the bytes. -/
theorem agree_copyFile (source target : Path) :
    Agree (Host.Matches clock clock') Eq (copyFile source target) (copyFile source target) := by
  intro host other hosts
  by_cases hnul : '\x00' ∈ source.toString.toList ∨ '\x00' ∈ target.toString.toList
  · exact ⟨_, _, host, other, run_copyFile_nul host hnul, run_copyFile_nul other hnul, .error _, hosts⟩
  obtain ⟨hclean, htarget⟩ := not_or.1 hnul
  have hiff := sameEntry_iff hosts source target
  by_cases hsame : host.SameEntry source target
  · exact ⟨_, _, host, other, (runs_copyFile hclean htarget).2 (.inl ⟨hsame, rfl, rfl⟩),
      (runs_copyFile hclean htarget).2 (.inl ⟨hiff.1 hsame, rfl, rfl⟩), .error _, hosts⟩
  · obtain ⟨answer, answer', after, after', hruns, hruns', hanswers, hafter⟩ :=
      agree_copyBytes source target host other hosts
    exact ⟨answer, answer', after, after', (runs_copyFile hclean htarget).2 (.inr ⟨hsame, hruns⟩),
      (runs_copyFile hclean htarget).2 (.inr ⟨mt hiff.2 hsame, hruns'⟩), hanswers, hafter⟩

theorem agree_settleFile (path : Path) (content : Option (List UInt8)) :
    Agree (Host.Matches clock clock') Eq (settleFile path content) (settleFile path content) := by
  cases content with
  | some bytes => exact agree_writeFile path (.refl bytes)
  | none =>
    refine Agree.bind (agree_pathExists path) ?_
    rintro found _ rfl
    exact Agree.ite Iff.rfl (agree_unlink path) (Agree.pure rfl)

end HostM

section works
variable {clock clock' : Clock}

theorem agree_publishGuest (package : Package) (guest : BuiltGuest) :
    Agree (Host.Matches clock clock') Eq (publishGuest package guest) (publishGuest package guest) := by
  have hact : ∀ effect : Effect, Agree (Host.Matches clock clock') Eq (effect.act package guest)
      (effect.act package guest) := by
    intro effect
    cases effect with
    | directory => exact agree_makeDirectories _
    | file sibling =>
      cases sibling with
      | elf => exact agree_copyFile _ _
      | legacy => exact agree_settleFile _ _
      | id context => exact agree_settleFile _ _
  rw [publishGuest_effects]
  refine Agree.bind (Agree.forM (fun effect => ?_) _) fun _ _ _ => Agree.pure rfl
  exact agree_orElse (hact effect) fun error => agree_fail _

theorem agree_runLogged (length : clock.SameLength clock') (log : Path) (call : Call) :
    Agree (Host.Matches clock clock') Eq (External.runLogged log call) (External.runLogged log call) := by
  refine Agree.bind (agree_makeDirectories log.parent) fun _ _ _ => ?_
  refine Agree.bind (agree_ask log fun _ _ trees current => trees.writeLocation current log) ?_
  rintro location _ rfl
  refine Agree.bind agree_get fun host other hosts => ?_
  have hheader := sameText_logHeader length hosts.shows_startTime call.words
  refine Agree.bind (agree_setEntry location (.file hheader)) fun _ _ _ => ?_
  refine Agree.bind (agree_startProcess call) ?_
  rintro ended _ rfl
  rw [List.Forall₂.length_eq hheader]
  exact Agree.bind (agree_writeAt location _ _) fun _ _ _ => Agree.pure rfl

/-- A build at another time reports the same, and writes the same but for the time. -/
theorem agree_builder (length : clock.SameLength clock') (command : String) (package : Package)
    (directory : Path) (options : GuestOptions) :
    Agree (Host.Matches clock clock') Eq (External.builder command package directory options)
      (External.builder command package directory options) := by
  have hwords : Agree (Host.Matches clock clock') Eq
      (ofValue .words (builderCommand command package directory options))
      (ofValue .words (builderCommand command package directory options)) := by
    cases builderCommand command package directory options with
    | ok words => exact Agree.pure rfl
    | error error => exact agree_fail _
  refine Agree.bind hwords ?_
  rintro words _ rfl
  refine Agree.bind (agree_orElse (agree_runLogged length _ _) fun error => agree_fail _) ?_
  rintro ended _ rfl
  refine Agree.bind agree_get fun host other hosts => ?_
  refine Agree.bind (agree_appendFile _ (sameText_logTrailer length hosts.shows_endTime ended.code)) fun _ _ _ => ?_
  refine Agree.ite Iff.rfl (agree_fail _) ?_
  cases parseReport ended.output (some package.name) with
  | ok guests => exact Agree.pure rfl
  | error error => exact agree_fail _

end works

end GuestForge
