import GuestForge.Bake
set_option autoImplicit false

/-!
# Runs of actions

An action started in a state answers, with a value or a fault, and leaves a state. `Runs` is that relation for
actions on a host and on a session alike; the lemmas take a composed action apart, by its answer. `Keeps` says
that a relation between the state before and the state after holds whatever the answer is.
-/
namespace GuestForge
variable {ε σ α β : Type}

/-- `action` started in `before` gives `answer` and leaves `after`. -/
def Runs (action : ExceptT ε (StateM σ) α) (before : σ) (answer : Except ε α) (after : σ) : Prop :=
  (action.run.run before : Except ε α × σ) = (answer, after)

/-- However `action` ends, the states before and after it are related. -/
def Keeps (related : σ → σ → Prop) (action : ExceptT ε (StateM σ) α) : Prop :=
  ∀ before answer after, Runs action before answer after → related before after

theorem Runs.exists (action : ExceptT ε (StateM σ) α) (before : σ) :
    ∃ answer after, Runs action before answer after := ⟨_, _, rfl⟩

theorem Runs.unique {action : ExceptT ε (StateM σ) α} {before after other : σ} {answer result : Except ε α}
    (h : Runs action before answer after) (h' : Runs action before result other) :
    answer = result ∧ after = other := by
  unfold Runs at h h'
  rw [h] at h'
  exact Prod.mk.inj h'

theorem Runs.iff {action : ExceptT ε (StateM σ) α} {before after other : σ} {answer result : Except ε α}
    (h : Runs action before answer after) :
    Runs action before result other ↔ result = answer ∧ other = after := by
  constructor
  · intro h'
    obtain ⟨rfl, rfl⟩ := h.unique h'
    exact ⟨rfl, rfl⟩
  · rintro ⟨rfl, rfl⟩
    exact h

theorem runs_of_toOption {action : ExceptT ε (StateM σ) α} {before : σ} {a : α}
    (h : (action.run.run before : Except ε α × σ).1.toOption = some a) :
    Runs action before (.ok a) (action.run.run before : Except ε α × σ).2 := by
  obtain ⟨answer, after, hruns⟩ := Runs.exists action before
  unfold Runs at hruns ⊢
  rw [hruns] at h ⊢
  cases answer with
  | error fault => cases h
  | ok _ =>
    cases h
    rfl

theorem runs_of_isSome {action : ExceptT ε (StateM σ) α} {before : σ}
    (h : (action.run.run before : Except ε α × σ).1.toOption.isSome = true) :
    ∃ a, Runs action before (.ok a) (action.run.run before : Except ε α × σ).2 := by
  obtain ⟨a, ha⟩ := Option.isSome_iff_exists.1 h
  exact ⟨a, runs_of_toOption ha⟩

section composition
variable {action : ExceptT ε (StateM σ) α} {next : α → ExceptT ε (StateM σ) β} {before after : σ}

theorem runs_pure {a : α} {answer : Except ε α} :
    Runs (pure a) before answer after ↔ answer = .ok a ∧ after = before :=
  Runs.iff rfl

theorem runs_throw {fault : ε} {answer : Except ε α} :
    Runs (throw fault) before answer after ↔ answer = .error fault ∧ after = before :=
  Runs.iff rfl

theorem run_bind_ok {a : α} {middle : σ} (h : Runs action before (.ok a) middle) :
    (action >>= next).run.run before = (next a).run.run middle := by
  unfold Runs at h
  rw [ExceptT.run_bind, StateT.run_bind, h]
  rfl

theorem run_bind_error {fault : ε} {middle : σ} (h : Runs action before (.error fault) middle) :
    (action >>= next).run.run before = (.error fault, middle) := by
  unfold Runs at h
  rw [ExceptT.run_bind, StateT.run_bind, h]
  rfl

theorem runs_bind {answer : Except ε β} :
    Runs (action >>= next) before answer after ↔
      (∃ a middle, Runs action before (.ok a) middle ∧ Runs (next a) middle answer after) ∨
      ∃ fault, Runs action before (.error fault) after ∧ answer = .error fault := by
  obtain ⟨first, middle, h⟩ := Runs.exists action before
  cases first with
  | ok a =>
    have hb : Runs (action >>= next) before answer after ↔ Runs (next a) middle answer after := by
      unfold Runs
      rw [run_bind_ok h]
    rw [hb]
    constructor
    · exact fun hn => .inl ⟨a, middle, h, hn⟩
    · rintro (⟨a', middle', ha, hn⟩ | ⟨fault, hf, -⟩)
      · obtain ⟨he, rfl⟩ := h.unique ha
        cases he
        exact hn
      · cases (h.unique hf).1
  | error fault =>
    have hb : Runs (action >>= next) before answer after ↔ (.error fault, middle) = (answer, after) := by
      unfold Runs
      rw [run_bind_error h]
    rw [hb]
    constructor
    · intro he
      obtain ⟨rfl, rfl⟩ := Prod.mk.inj he
      exact .inr ⟨fault, h, rfl⟩
    · rintro (⟨a, middle', ha, -⟩ | ⟨fault', hf, rfl⟩)
      · cases (h.unique ha).1
      · obtain ⟨he, rfl⟩ := h.unique hf
        cases he
        rfl

theorem runs_bind_ok {b : β} :
    Runs (action >>= next) before (.ok b) after ↔
      ∃ a middle, Runs action before (.ok a) middle ∧ Runs (next a) middle (.ok b) after := by
  rw [runs_bind]
  constructor
  · rintro (h | ⟨fault, -, h⟩)
    · exact h
    · cases h
  · exact .inl

theorem runs_bind_error {fault : ε} :
    Runs (action >>= next) before (.error fault) after ↔
      Runs action before (.error fault) after ∨
      ∃ a middle, Runs action before (.ok a) middle ∧ Runs (next a) middle (.error fault) after := by
  rw [runs_bind]
  constructor
  · rintro (h | ⟨fault', hf, he⟩)
    · exact .inr h
    · cases he
      exact .inl hf
  · rintro (h | h)
    · exact .inr ⟨fault, h, rfl⟩
    · exact .inl h

theorem runs_map_ok {f : α → β} {b : β} :
    Runs (f <$> action) before (.ok b) after ↔ ∃ a, Runs action before (.ok a) after ∧ f a = b := by
  rw [map_eq_pure_bind, runs_bind_ok]
  constructor
  · rintro ⟨a, middle, ha, hpure⟩
    obtain ⟨hb, rfl⟩ := runs_pure.1 hpure
    exact ⟨a, ha, (Except.ok.inj hb).symm⟩
  · rintro ⟨a, ha, rfl⟩
    exact ⟨a, after, ha, runs_pure.2 ⟨rfl, rfl⟩⟩

theorem runs_map_error {f : α → β} {fault : ε} :
    Runs (f <$> action) before (.error fault) after ↔ Runs action before (.error fault) after := by
  rw [map_eq_pure_bind, runs_bind_error]
  constructor
  · rintro (h | ⟨a, middle, -, hpure⟩)
    · exact h
    · cases (runs_pure.1 hpure).1
  · exact .inl

end composition

section lists
variable {action : α → ExceptT ε (StateM σ) β} {before after : σ}

theorem runs_mapM_nil {answer : Except ε (List β)} :
    Runs (([] : List α).mapM action) before answer after ↔ answer = .ok [] ∧ after = before := by
  rw [List.mapM_nil]
  exact runs_pure

theorem runs_mapM_cons_ok {a : α} {rest : List α} {results : List β} :
    Runs ((a :: rest).mapM action) before (.ok results) after ↔
      ∃ b others middle, results = b :: others ∧ Runs (action a) before (.ok b) middle ∧
        Runs (rest.mapM action) middle (.ok others) after := by
  rw [List.mapM_cons]
  constructor
  · intro h
    obtain ⟨b, middle, hfirst, hothers⟩ := runs_bind_ok.1 h
    obtain ⟨others, last, hrest, hpure⟩ := runs_bind_ok.1 hothers
    obtain ⟨hresults, rfl⟩ := runs_pure.1 hpure
    exact ⟨b, others, middle, Except.ok.inj hresults, hfirst, hrest⟩
  · rintro ⟨b, others, middle, rfl, hfirst, hrest⟩
    exact runs_bind_ok.2 ⟨b, middle, hfirst, runs_bind_ok.2 ⟨others, after, hrest, runs_pure.2 ⟨rfl, rfl⟩⟩⟩

theorem runs_mapM_cons_error {a : α} {rest : List α} {fault : ε} :
    Runs ((a :: rest).mapM action) before (.error fault) after ↔
      Runs (action a) before (.error fault) after ∨
      ∃ b middle, Runs (action a) before (.ok b) middle ∧ Runs (rest.mapM action) middle (.error fault) after := by
  rw [List.mapM_cons, runs_bind_error]
  constructor
  · rintro (h | ⟨b, middle, hfirst, hothers⟩)
    · exact .inl h
    · rcases runs_bind_error.1 hothers with hrest | ⟨others, last, -, hpure⟩
      · exact .inr ⟨b, middle, hfirst, hrest⟩
      · cases (runs_pure.1 hpure).1
  · rintro (h | ⟨b, middle, hfirst, hrest⟩)
    · exact .inl h
    · exact .inr ⟨b, middle, hfirst, runs_bind_error.2 (.inl hrest)⟩

/-- A run over a list fails at one element: those before it completed, those behind it have no part in it. -/
theorem runs_mapM_error {list : List α} {fault : ε} :
    Runs (list.mapM action) before (.error fault) after ↔
      ∃ done a rest results middle, list = done ++ a :: rest ∧ Runs (done.mapM action) before (.ok results) middle ∧
        Runs (action a) middle (.error fault) after := by
  induction list generalizing before with
  | nil =>
    rw [runs_mapM_nil]
    constructor
    · rintro ⟨h, -⟩
      cases h
    · rintro ⟨done, a, rest, results, middle, h, -⟩
      exact absurd h (by simp)
  | cons first others ih =>
    rw [runs_mapM_cons_error]
    constructor
    · rintro (h | ⟨b, middle, hfirst, hrest⟩)
      · exact ⟨[], first, others, [], before, rfl, runs_mapM_nil.2 ⟨rfl, rfl⟩, h⟩
      · obtain ⟨done, a, rest, results, last, rfl, hdone, hfails⟩ := ih.1 hrest
        exact ⟨first :: done, a, rest, b :: results, last, rfl,
          runs_mapM_cons_ok.2 ⟨b, results, middle, rfl, hfirst, hdone⟩, hfails⟩
    · rintro ⟨done, a, rest, results, last, hlist, hdone, hfails⟩
      cases done with
      | nil =>
        obtain ⟨rfl, rfl⟩ := List.cons.inj hlist
        obtain ⟨-, rfl⟩ := runs_mapM_nil.1 hdone
        exact .inl hfails
      | cons head done =>
        obtain ⟨rfl, rfl⟩ := List.cons.inj hlist
        obtain ⟨b, results, middle, rfl, hfirst, hrest⟩ := runs_mapM_cons_ok.1 hdone
        exact .inr ⟨b, middle, hfirst, ih.2 ⟨done, a, rest, results, last, rfl, hrest, hfails⟩⟩

theorem runs_forM_cons {action : α → ExceptT ε (StateM σ) PUnit} {a : α} {rest : List α} {answer : Except ε PUnit} :
    Runs ((a :: rest).forM action) before answer after ↔
      Runs (action a >>= fun _ => rest.forM action) before answer after := Iff.rfl

theorem runs_forM_error {action : α → ExceptT ε (StateM σ) PUnit} {list : List α} {fault : ε} :
    Runs (list.forM action) before (.error fault) after ↔
      ∃ done a rest middle, list = done ++ a :: rest ∧ Runs (done.forM action) before (.ok ()) middle ∧
        Runs (action a) middle (.error fault) after := by
  induction list generalizing before with
  | nil =>
    constructor
    · intro h
      cases (runs_pure.1 h).1
    · rintro ⟨done, a, rest, middle, h, -⟩
      exact absurd h (by simp)
  | cons first others ih =>
    rw [runs_forM_cons, runs_bind_error]
    constructor
    · rintro (h | ⟨_, middle, hfirst, hrest⟩)
      · exact ⟨[], first, others, before, rfl, runs_pure.2 ⟨rfl, rfl⟩, h⟩
      · obtain ⟨done, a, rest, last, rfl, hdone, hfails⟩ := ih.1 hrest
        exact ⟨first :: done, a, rest, last, rfl, runs_bind_ok.2 ⟨(), middle, hfirst, hdone⟩, hfails⟩
    · rintro ⟨done, a, rest, last, hlist, hdone, hfails⟩
      cases done with
      | nil =>
        obtain ⟨rfl, rfl⟩ := List.cons.inj hlist
        obtain ⟨-, rfl⟩ := runs_pure.1 hdone
        exact .inl hfails
      | cons head done =>
        obtain ⟨rfl, rfl⟩ := List.cons.inj hlist
        obtain ⟨_, middle, hfirst, hdone⟩ := runs_bind_ok.1 hdone
        exact .inr ⟨(), middle, hfirst, ih.2 ⟨done, a, rest, last, rfl, hdone, hfails⟩⟩

end lists

section handling
variable {action : ExceptT ε (StateM σ) α} {handle : ε → ExceptT ε (StateM σ) α} {before after : σ}

theorem run_tryCatch_ok {a : α} (h : Runs action before (.ok a) after) :
    (tryCatch action handle).run.run before = (.ok a, after) := by
  unfold Runs at h
  rw [ExceptT.run_tryCatch, StateT.run_bind, h]
  rfl

theorem run_tryCatch_error {fault : ε} {middle : σ} (h : Runs action before (.error fault) middle) :
    (tryCatch action handle).run.run before = (handle fault).run.run middle := by
  unfold Runs at h
  rw [ExceptT.run_tryCatch, StateT.run_bind, h]
  rfl

theorem runs_tryCatch {answer : Except ε α} :
    Runs (tryCatch action handle) before answer after ↔
      (∃ a, Runs action before (.ok a) after ∧ answer = .ok a) ∨
      ∃ fault middle, Runs action before (.error fault) middle ∧ Runs (handle fault) middle answer after := by
  obtain ⟨first, middle, h⟩ := Runs.exists action before
  cases first with
  | ok a =>
    have hc : Runs (tryCatch action handle) before answer after ↔ (.ok a, middle) = (answer, after) := by
      unfold Runs
      rw [run_tryCatch_ok h]
    rw [hc]
    constructor
    · intro he
      obtain ⟨rfl, rfl⟩ := Prod.mk.inj he
      exact .inl ⟨a, h, rfl⟩
    · rintro (⟨a', ha, rfl⟩ | ⟨fault, middle', hf, -⟩)
      · obtain ⟨he, rfl⟩ := h.unique ha
        cases he
        rfl
      · cases (h.unique hf).1
  | error fault =>
    have hc : Runs (tryCatch action handle) before answer after ↔ Runs (handle fault) middle answer after := by
      unfold Runs
      rw [run_tryCatch_error h]
    rw [hc]
    constructor
    · exact fun hh => .inr ⟨fault, middle, h, hh⟩
    · rintro (⟨a, ha, -⟩ | ⟨fault', middle', hf, hh⟩)
      · cases (h.unique ha).1
      · obtain ⟨he, rfl⟩ := h.unique hf
        cases he
        exact hh

end handling

namespace Keeps
variable {related : σ → σ → Prop}

theorem pure (refl : ∀ s, related s s) (a : α) :
    Keeps related (Pure.pure a : ExceptT ε (StateM σ) α) := by
  intro before answer after h
  obtain ⟨-, rfl⟩ := runs_pure.1 h
  exact refl after

theorem throw (refl : ∀ s, related s s) (fault : ε) :
    Keeps related (MonadExcept.throw fault : ExceptT ε (StateM σ) α) := by
  intro before answer after h
  obtain ⟨-, rfl⟩ := runs_throw.1 h
  exact refl after

theorem bind (trans : ∀ s t u, related s t → related t u → related s u)
    {action : ExceptT ε (StateM σ) α} {next : α → ExceptT ε (StateM σ) β}
    (first : Keeps related action) (rest : ∀ a, Keeps related (next a)) : Keeps related (action >>= next) := by
  intro before answer after h
  rcases runs_bind.1 h with ⟨a, middle, ha, hn⟩ | ⟨fault, hf, -⟩
  · exact trans _ _ _ (first _ _ _ ha) (rest a _ _ _ hn)
  · exact first _ _ _ hf

theorem tryCatch (trans : ∀ s t u, related s t → related t u → related s u)
    {action : ExceptT ε (StateM σ) α} {handle : ε → ExceptT ε (StateM σ) α}
    (first : Keeps related action) (rest : ∀ fault, Keeps related (handle fault)) :
    Keeps related (MonadExcept.tryCatch action handle) := by
  intro before answer after h
  rcases runs_tryCatch.1 h with ⟨a, ha, -⟩ | ⟨fault, middle, hf, hh⟩
  · exact first _ _ _ ha
  · exact trans _ _ _ (first _ _ _ hf) (rest fault _ _ _ hh)

theorem forM (trans : ∀ s t u, related s t → related t u → related s u) (refl : ∀ s, related s s)
    {action : α → ExceptT ε (StateM σ) PUnit} {list : List α} (step : ∀ a ∈ list, Keeps related (action a)) :
    Keeps related (list.forM action) := by
  induction list with
  | nil => exact Keeps.pure refl _
  | cons a rest ih =>
    exact Keeps.bind trans (step a List.mem_cons_self) fun _ =>
      ih fun b hb => step b (List.mem_cons_of_mem _ hb)

theorem ite {condition : Prop} [Decidable condition] {action other : ExceptT ε (StateM σ) α}
    (first : Keeps related action) (second : Keeps related other) :
    Keeps related (if condition then action else other) := by
  split
  · exact first
  · exact second

end Keeps

end GuestForge
