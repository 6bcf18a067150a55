import GuestForge.FileTree.Walk
set_option autoImplicit false

/-!
# Walking where there are links

`Leads` has one rule for each thing that the next step of a walk can meet, and the walks that succeed are those that it
derives. By induction on the rules, a walk is taken apart at any step that moves on, and walks are compared between
trees: one that ends at a directory ends there as long as directories and links stay, one that ends at a file or at
nothing ends at whatever is put there instead, and where a file or a link is taken away the walk ends at no entry.
-/
namespace GuestForge.FileTree

structure Proper (aim : Aim) (step : String) (rest : List String) : Prop where
  idle : ¬ (step = "" ∨ step = ".")
  up : step ≠ ".."
  writable : ¬ (aim = .write ∧ rest ≠ [] ∧ rest.all (· = ""))
  fits : step.utf8ByteSize ≤ 255

def Moves (rest : List String) : Prop := ∃ step ∈ rest, step ≠ ""

section proper
variable {aim other : Aim} {step : String} {rest others : List String}

theorem Proper.toFollow (h : Proper aim step rest) : Proper .follow step others :=
  ⟨h.idle, h.up, fun hwrite => Aim.noConfusion hwrite.1, h.fits⟩

theorem Proper.toStay (h : Proper aim step rest) : Proper .stay step others :=
  ⟨h.idle, h.up, fun hwrite => Aim.noConfusion hwrite.1, h.fits⟩

theorem Proper.extend (h : Proper aim step rest) (moves : Moves others) : Proper other step (rest ++ others) := by
  refine ⟨h.idle, h.up, ?_, h.fits⟩
  rintro ⟨-, -, hall⟩
  obtain ⟨next, hnext, hne⟩ := moves
  have hempty := List.all_eq_true.1 hall next (List.mem_append_right _ hnext)
  exact hne (of_decide_eq_true hempty)

end proper

section equations
variable {tree : FileTree} {aim : Aim} {links : Nat} {here : Location} {step : String} {rest : List String}

theorem walkFrom_nil : tree.walkFrom aim links here [] = .ok (.entry here .directory) := by
  cases links <;> rfl

theorem walkFrom_idle (h : step = "" ∨ step = ".") :
    tree.walkFrom aim links here (step :: rest) = tree.walkFrom aim links here rest := by
  cases links <;> exact if_pos h

theorem walkFrom_up : tree.walkFrom aim links here (".." :: rest) = tree.walkFrom aim links here.dropLast rest := by
  cases links <;> rfl

theorem walkFrom_cons (hidle : ¬ (step = "" ∨ step = ".")) (hup : step ≠ "..") :
    tree.walkFrom aim links here (step :: rest) =
      if aim = .write ∧ rest ≠ [] ∧ rest.all (· = "") then .error .isDirectory
      else if 255 < step.utf8ByteSize then .error .nameTooLong
      else match tree.get? (here ++ [step]) with
        | none => if rest = [] then .ok (.vacant here step) else .error .noEntry
        | some .directory => tree.walkFrom aim links (here ++ [step]) rest
        | some (.file bytes) =>
          if rest = [] then .ok (.entry (here ++ [step]) (.file bytes)) else .error .notDirectory
        | some (.link target) =>
          if rest = [] ∧ aim = .stay then .ok (.entry (here ++ [step]) (.link target))
          else match links with
            | 0 => .error .tooManyLinks
            | links + 1 => tree.walkFrom aim links (if target.toList.head? = some '/' then [] else here)
                (stepsOf target ++ rest) := by
  cases links <;> exact (if_neg hidle).trans (if_neg hup)

theorem walkFrom_proper (h : Proper aim step rest) :
    tree.walkFrom aim links here (step :: rest) = match tree.get? (here ++ [step]) with
      | none => if rest = [] then .ok (.vacant here step) else .error .noEntry
      | some .directory => tree.walkFrom aim links (here ++ [step]) rest
      | some (.file bytes) =>
        if rest = [] then .ok (.entry (here ++ [step]) (.file bytes)) else .error .notDirectory
      | some (.link target) =>
        if rest = [] ∧ aim = .stay then .ok (.entry (here ++ [step]) (.link target))
        else match links with
          | 0 => .error .tooManyLinks
          | links + 1 => tree.walkFrom aim links (if target.toList.head? = some '/' then [] else here)
              (stepsOf target ++ rest) := by
  rw [walkFrom_cons h.idle h.up, if_neg h.writable, if_neg (Nat.not_lt.2 h.fits)]

theorem walkFrom_missing (h : Proper aim step rest) (none : tree.get? (here ++ [step]) = none) {location : Location}
    {entry : Entry} : tree.walkFrom aim links here (step :: rest) ≠ .ok (.entry location entry) := by
  rw [walkFrom_proper h, none]
  by_cases hrest : rest = [] <;> simp [hrest]

end equations

/-- A walk from `here` that may follow so many links makes the steps and ends at `found`. -/
inductive Leads (tree : FileTree) (aim : Aim) : Nat → Location → List String → Reached → Prop where
  | here (links : Nat) (here : Location) : Leads tree aim links here [] (.entry here .directory)
  | stay {links : Nat} {here : Location} {step : String} {rest : List String} {found : Reached}
      (idle : step = "" ∨ step = ".") (onward : Leads tree aim links here rest found) :
      Leads tree aim links here (step :: rest) found
  | up {links : Nat} {here : Location} {rest : List String} {found : Reached}
      (onward : Leads tree aim links here.dropLast rest found) : Leads tree aim links here (".." :: rest) found
  | enter {links : Nat} {here : Location} {step : String} {rest : List String} {found : Reached}
      (proper : Proper aim step rest) (there : tree.get? (here ++ [step]) = some .directory)
      (onward : Leads tree aim links (here ++ [step]) rest found) : Leads tree aim links here (step :: rest) found
  | follow {links : Nat} {here : Location} {step : String} {rest : List String} {found : Reached} {target : String}
      (proper : Proper aim step rest) (there : tree.get? (here ++ [step]) = some (.link target))
      (followed : ¬ (rest = [] ∧ aim = .stay))
      (onward : Leads tree aim links (if target.toList.head? = some '/' then [] else here) (stepsOf target ++ rest)
        found) :
      Leads tree aim (links + 1) here (step :: rest) found
  | vacant {links : Nat} {here : Location} {step : String} (proper : Proper aim step [])
      (there : tree.get? (here ++ [step]) = none) : Leads tree aim links here [step] (.vacant here step)
  | file {links : Nat} {here : Location} {step : String} {bytes : List UInt8} (proper : Proper aim step [])
      (there : tree.get? (here ++ [step]) = some (.file bytes)) :
      Leads tree aim links here [step] (.entry (here ++ [step]) (.file bytes))
  | link {links : Nat} {here : Location} {step : String} {target : String} (proper : Proper aim step [])
      (there : tree.get? (here ++ [step]) = some (.link target)) (stays : aim = .stay) :
      Leads tree aim links here [step] (.entry (here ++ [step]) (.link target))

section leads
variable {tree other : FileTree} {aim : Aim} {links : Nat} {here there location : Location} {steps : List String}
  {found : Reached} {entry : Entry}

theorem Leads.walkFrom (h : Leads tree aim links here steps found) :
    tree.walkFrom aim links here steps = .ok found := by
  induction h with
  | here links here => exact walkFrom_nil
  | stay idle onward ih => rw [walkFrom_idle idle, ih]
  | up onward ih => rw [walkFrom_up, ih]
  | enter proper there onward ih =>
    rw [walkFrom_proper proper, there]
    exact ih
  | follow proper there followed onward ih =>
    rw [walkFrom_proper proper, there]
    exact (if_neg followed).trans ih
  | vacant proper there =>
    rw [walkFrom_proper proper, there]
    rfl
  | file proper there =>
    rw [walkFrom_proper proper, there]
    rfl
  | link proper there stays =>
    rw [walkFrom_proper proper, there]
    exact if_pos ⟨rfl, stays⟩

/-- By induction on the links that may still be followed, and for these on the steps. -/
theorem leads_of_walkFrom (h : tree.walkFrom aim links here steps = .ok found) :
    Leads tree aim links here steps found := by
  induction links using Nat.strongRecOn generalizing here steps with
  | ind links fewer =>
  induction steps generalizing here with
  | nil =>
    rw [walkFrom_nil] at h
    cases h
    exact .here links here
  | cons step rest ih =>
    by_cases hidle : step = "" ∨ step = "."
    · rw [walkFrom_idle hidle] at h
      exact .stay hidle (ih h)
    by_cases hup : step = ".."
    · subst hup
      rw [walkFrom_up] at h
      exact .up (ih h)
    rw [walkFrom_cons hidle hup] at h
    split at h
    · cases h
    rename_i hwritable
    split at h
    · cases h
    rename_i hfits
    have hproper : Proper aim step rest := ⟨hidle, hup, hwritable, Nat.le_of_not_lt hfits⟩
    split at h
    · rename_i hget
      split at h
      · subst_vars
        cases h
        exact .vacant hproper hget
      · cases h
    · rename_i hget
      exact .enter hproper hget (ih h)
    · rename_i bytes hget
      split at h
      · subst_vars
        cases h
        exact .file hproper hget
      · cases h
    · rename_i target hget
      split at h
      · rename_i hstays
        obtain ⟨rfl, hstays⟩ := hstays
        cases h
        exact .link hproper hget hstays
      · rename_i hfollowed
        split at h
        · cases h
        · exact .follow hproper hget hfollowed (fewer _ (Nat.lt_succ_self _) h)

theorem walkFrom_eq_ok : tree.walkFrom aim links here steps = .ok found ↔ Leads tree aim links here steps found :=
  ⟨leads_of_walkFrom, Leads.walkFrom⟩

/-- What the tree has where a walk ends. Only a walk that is to stay at links ends at one. -/
def Stands (tree : FileTree) (aim : Aim) : Reached → Prop
  | .vacant directory name => tree.get? (directory ++ [name]) = none
  | .entry _ .directory => True
  | .entry location (.file bytes) => tree.get? location = some (.file bytes)
  | .entry location (.link target) => tree.get? location = some (.link target) ∧ aim = .stay

theorem Leads.stands (h : Leads tree aim links here steps found) : Stands tree aim found := by
  induction h with
  | here links here => trivial
  | stay idle onward ih => exact ih
  | up onward ih => exact ih
  | enter proper there onward ih => exact ih
  | follow proper there followed onward ih => exact ih
  | vacant proper there => exact there
  | file proper there => exact there
  | link proper there stays => exact ⟨there, stays⟩

/-- A walk that goes on at a link at its end arrives somewhere only if the one that stays there does. -/
theorem Leads.unfollowed (h : Leads tree .follow links here steps (.entry location entry)) :
    ∃ location entry, Leads tree .stay links here steps (.entry location entry) := by
  generalize hfound : Reached.entry location entry = found at h
  induction h with
  | here links here => exact ⟨_, _, .here links here⟩
  | stay idle onward ih =>
    obtain ⟨location, entry, hstay⟩ := ih hfound
    exact ⟨location, entry, .stay idle hstay⟩
  | up onward ih =>
    obtain ⟨location, entry, hstay⟩ := ih hfound
    exact ⟨location, entry, .up hstay⟩
  | enter proper there onward ih =>
    obtain ⟨location, entry, hstay⟩ := ih hfound
    exact ⟨location, entry, .enter proper.toStay there hstay⟩
  | @follow links here step rest found target proper there followed onward ih =>
    by_cases hrest : rest = []
    · subst hrest
      exact ⟨_, _, .link proper.toStay there rfl⟩
    · obtain ⟨location, entry, hstay⟩ := ih hfound
      exact ⟨location, entry, .follow proper.toStay there (fun h => hrest h.1) hstay⟩
  | vacant proper there => cases hfound
  | file proper there => exact ⟨_, _, .file proper.toStay there⟩
  | link proper there stays => cases stays

/-- A walk that moves on after some steps has come to a directory by them. -/
theorem Leads.front {front rest : List String} (h : Leads tree aim links here (front ++ rest) found)
    (moves : Moves rest) : ∃ there, Leads tree .follow links here front (.entry there .directory) := by
  have hne : ∀ front, front ++ rest ≠ [] := by
    obtain ⟨step, hstep, -⟩ := moves
    exact fun front hnil => List.ne_nil_of_mem (List.mem_append_right front hstep) hnil
  generalize hsteps : front ++ rest = steps at h
  induction h generalizing front with
  | here links here => exact absurd hsteps (hne front)
  | stay idle onward ih =>
    rcases front with _ | ⟨step, front⟩
    · exact ⟨_, .here _ _⟩
    · obtain ⟨rfl, rfl⟩ := List.cons.inj hsteps
      obtain ⟨there, hfront⟩ := ih rfl
      exact ⟨there, .stay idle hfront⟩
  | up onward ih =>
    rcases front with _ | ⟨step, front⟩
    · exact ⟨_, .here _ _⟩
    · obtain ⟨rfl, rfl⟩ := List.cons.inj hsteps
      obtain ⟨there, hfront⟩ := ih rfl
      exact ⟨there, .up hfront⟩
  | enter proper there onward ih =>
    rcases front with _ | ⟨step, front⟩
    · exact ⟨_, .here _ _⟩
    · obtain ⟨rfl, rfl⟩ := List.cons.inj hsteps
      obtain ⟨last, hfront⟩ := ih rfl
      exact ⟨last, .enter proper.toFollow there hfront⟩
  | follow proper there followed onward ih =>
    rcases front with _ | ⟨step, front⟩
    · exact ⟨_, .here _ _⟩
    · obtain ⟨rfl, rfl⟩ := List.cons.inj hsteps
      obtain ⟨last, hfront⟩ := ih (List.append_assoc _ front rest)
      exact ⟨last, .follow proper.toFollow there (fun h => Aim.noConfusion h.2) hfront⟩
  | _ =>
    rcases front with _ | ⟨step, front⟩
    · exact ⟨_, .here _ _⟩
    · exact absurd (List.cons.inj hsteps).2 (hne front)

theorem Leads.onward {front : List String} (h : Leads tree .follow links here front (.entry there .directory)) :
    ∃ left, ∀ aim rest, Moves rest →
      tree.walkFrom aim links here (front ++ rest) = tree.walkFrom aim left there rest := by
  generalize hfound : Reached.entry there .directory = found at h
  induction h with
  | here links here =>
    cases hfound
    exact ⟨links, fun aim rest _ => rfl⟩
  | stay idle onward ih =>
    obtain ⟨left, hleft⟩ := ih hfound
    exact ⟨left, fun aim rest moves => (walkFrom_idle idle).trans (hleft aim rest moves)⟩
  | up onward ih =>
    obtain ⟨left, hleft⟩ := ih hfound
    exact ⟨left, fun aim rest moves => walkFrom_up.trans (hleft aim rest moves)⟩
  | enter proper there onward ih =>
    obtain ⟨left, hleft⟩ := ih hfound
    refine ⟨left, fun aim rest moves => ?_⟩
    rw [List.cons_append, walkFrom_proper (proper.extend moves), there]
    exact hleft aim rest moves
  | @follow links here step front found target proper there followed onward ih =>
    obtain ⟨left, hleft⟩ := ih hfound
    refine ⟨left, fun aim rest moves => ?_⟩
    have hmore : ¬ (front ++ rest = [] ∧ aim = .stay) := by
      rintro ⟨hnil, -⟩
      obtain ⟨step, hstep, -⟩ := moves
      exact List.ne_nil_of_mem (List.mem_append_right front hstep) hnil
    rw [List.cons_append, walkFrom_proper (proper.extend moves), there]
    refine (if_neg hmore).trans ?_
    rw [← List.append_assoc]
    exact hleft aim rest moves
  | vacant proper there => cases hfound
  | file proper there => cases hfound
  | link proper there stays => cases hfound

structure Stays (tree other : FileTree) : Prop where
  directory : ∀ location, tree.get? location = some .directory → other.get? location = some .directory
  link : ∀ location target, tree.get? location = some (.link target) → other.get? location = some (.link target)

/-- A walk ended at a file at a location, or where nothing was. -/
inductive Reached.Open : Reached → Location → Prop where
  | vacant (directory : Location) (name : String) : Open (.vacant directory name) (directory ++ [name])
  | file (location : Location) (bytes : List UInt8) : Open (.entry location (.file bytes)) location

/-- What the end of a walk turns into in another tree: directories stay, and elsewhere something stands that is no
link. -/
inductive Turns (other : FileTree) : Reached → Location → Entry → Prop where
  | directory (location : Location) : Turns other (.entry location .directory) location .directory
  | opened {found : Reached} {location : Location} {entry : Entry} (open_ : found.Open location)
      (there : other.get? location = some entry) (unlinked : ∀ target, entry ≠ .link target) :
      Turns other found location entry

theorem leads_last {step : String} (proper : Proper aim step []) (there : other.get? (here ++ [step]) = some entry)
    (unlinked : ∀ target, entry ≠ .link target) :
    Leads other aim links here [step] (.entry (here ++ [step]) entry) := by
  cases entry with
  | directory => exact .enter proper there (.here links _)
  | file bytes => exact .file proper there
  | link target => exact absurd rfl (unlinked target)

/-- While directories and links stay, a walk takes the same way, to what its end has turned into. -/
theorem Leads.turn (h : Leads tree aim links here steps found) (stays : Stays tree other)
    (turns : Turns other found location entry) : Leads other .follow links here steps (.entry location entry) := by
  induction h with
  | here links here =>
    cases turns with
    | directory => exact .here links _
    | opened open_ there unlinked => cases open_
  | stay idle onward ih => exact .stay idle (ih turns)
  | up onward ih => exact .up (ih turns)
  | enter proper there onward ih => exact .enter proper.toFollow (stays.directory _ there) (ih turns)
  | follow proper there followed onward ih =>
    exact .follow proper.toFollow (stays.link _ _ there) (fun h => Aim.noConfusion h.2) (ih turns)
  | vacant proper there =>
    cases turns with
    | opened open_ there unlinked =>
      cases open_
      exact leads_last proper.toFollow there unlinked
  | file proper there =>
    cases turns with
    | opened open_ there unlinked =>
      cases open_
      exact leads_last proper.toFollow there unlinked
  | link proper there stays =>
    cases turns with
    | opened open_ there unlinked => cases open_

/-- Where a file or a link was taken away, the path to it leads to no entry. -/
theorem Leads.erased (h : Leads tree .stay links here steps (.entry location entry)) (open_ : entry ≠ .directory)
    (end_ : Location) (entry' : Entry) :
    (tree.erase location).walkFrom .follow links here steps ≠ .ok (.entry end_ entry') := by
  have hstands := h.stands
  have hget : tree.get? location = some entry := by
    cases entry with
    | directory => exact absurd rfl open_
    | file bytes => exact hstands
    | link target => exact hstands.1
  clear hstands
  generalize hfound : Reached.entry location entry = found at h
  induction h with
  | here links here =>
    cases hfound
    exact absurd rfl open_
  | stay idle onward ih =>
    rw [walkFrom_idle idle]
    exact ih hfound
  | up onward ih =>
    rw [walkFrom_up]
    exact ih hfound
  | @enter links here step rest found proper there onward ih =>
    rw [walkFrom_proper proper.toFollow, get?_erase, if_neg, there]
    · exact ih hfound
    · rintro rfl
      rw [hget] at there
      exact open_ (Option.some.inj there)
  | @follow links here step rest found target proper there followed onward ih =>
    by_cases hsame : location = here ++ [step]
    · exact walkFrom_missing proper.toFollow (by rw [get?_erase, if_pos hsame])
    · rw [walkFrom_proper proper.toFollow, get?_erase, if_neg hsame, there]
      simp only [reduceCtorEq, and_false, if_false]
      exact ih hfound
  | vacant proper there => cases hfound
  | file proper there =>
    cases hfound
    exact walkFrom_missing proper.toFollow (by rw [get?_erase, if_pos rfl])
  | link proper there stays =>
    cases hfound
    exact walkFrom_missing proper.toFollow (by rw [get?_erase, if_pos rfl])

theorem stays_of_ne (same : ∀ other', other' ≠ location → other.get? other' = tree.get? other')
    (open_ : tree.get? location ≠ some .directory) (unlinked : ∀ target, tree.get? location ≠ some (.link target)) :
    Stays tree other := by
  constructor
  · intro location' hdirectory
    rw [same location', hdirectory]
    rintro rfl
    exact open_ hdirectory
  · intro location' target hlink
    rw [same location', hlink]
    rintro rfl
    exact unlinked target hlink

theorem stays_set (open_ : found.Open location) (stands : Stands tree aim found) (entry : Entry) :
    Stays tree (tree.set location entry) := by
  have hsame : ∀ other', other' ≠ location → (tree.set location entry).get? other' = tree.get? other' :=
    fun other' hne => by rw [get?_set, if_neg hne.symm]
  cases open_ with
  | vacant directory name =>
    have hget : tree.get? (directory ++ [name]) = none := stands
    exact stays_of_ne hsame (by simp [hget]) (by simp [hget])
  | file location bytes =>
    have hget : tree.get? location = some (.file bytes) := stands
    exact stays_of_ne hsame (by simp [hget]) (by simp [hget])

end leads

end GuestForge.FileTree
