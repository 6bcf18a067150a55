import GuestForge.Proofs.Runs
import Mathlib.Data.List.Forall2
set_option autoImplicit false

/-!
# Two runs side by side

`Agree` compares two actions that are started in related states: they fail with the same fault or answer alike, and
the states they leave are related again. Actions that are composed in the same way agree if their parts do.
-/
namespace GuestForge
variable {ε σ α β γ δ : Type}

inductive Answers (same : α → β → Prop) : Except ε α → Except ε β → Prop where
  | ok {a : α} {b : β} (h : same a b) : Answers same (.ok a) (.ok b)
  | error (fault : ε) : Answers same (.error fault) (.error fault)

namespace Answers
variable {same : α → β → Prop} {same' : γ → δ → Prop}

theorem bind {first : Except ε α} {second : Except ε β} {next : α → Except ε γ} {next' : β → Except ε δ}
    (h : Answers same first second) (rest : ∀ a b, same a b → Answers same' (next a) (next' b)) :
    Answers same' (first >>= next) (second >>= next') := by
  cases h with
  | ok h => exact rest _ _ h
  | error fault => exact .error fault

theorem elim {first : Except ε α} {second : Except ε β} (h : Answers same first second) :
    (∃ a b, first = .ok a ∧ second = .ok b ∧ same a b) ∨ ∃ fault, first = .error fault ∧ second = .error fault := by
  cases h with
  | ok h => exact .inl ⟨_, _, rfl, rfl, h⟩
  | error fault => exact .inr ⟨fault, rfl, rfl⟩

theorem eq {answer answer' : Except ε α} (h : Answers Eq answer answer') : answer = answer' := by
  cases h with
  | ok h => rw [h]
  | error fault => rfl

end Answers

/-- Started in related states, two actions fail alike or answer alike, and leave related states. -/
def Agree (related : σ → σ → Prop) (same : α → β → Prop) (action : ExceptT ε (StateM σ) α)
    (other : ExceptT ε (StateM σ) β) : Prop :=
  ∀ before before', related before before' → ∃ answer answer' after after',
    Runs action before answer after ∧ Runs other before' answer' after' ∧ Answers same answer answer' ∧
    related after after'

namespace Agree
variable {related : σ → σ → Prop} {same : α → β → Prop} {same' : γ → δ → Prop}

theorem pure {a : α} {b : β} (h : same a b) :
    Agree related same (Pure.pure a : ExceptT ε (StateM σ) α) (Pure.pure b) :=
  fun before before' hstates =>
    ⟨.ok a, .ok b, before, before', runs_pure.2 ⟨rfl, rfl⟩, runs_pure.2 ⟨rfl, rfl⟩, .ok h, hstates⟩

theorem throw (fault : ε) :
    Agree related same (MonadExcept.throw fault : ExceptT ε (StateM σ) α) (MonadExcept.throw fault) :=
  fun before before' hstates => ⟨.error fault, .error fault, before, before', runs_throw.2 ⟨rfl, rfl⟩,
    runs_throw.2 ⟨rfl, rfl⟩, .error fault, hstates⟩

variable {action : ExceptT ε (StateM σ) α} {other : ExceptT ε (StateM σ) β}

theorem bind {next : α → ExceptT ε (StateM σ) γ} {next' : β → ExceptT ε (StateM σ) δ}
    (first : Agree related same action other) (rest : ∀ a b, same a b → Agree related same' (next a) (next' b)) :
    Agree related same' (action >>= next) (other >>= next') := by
  intro before before' hstates
  obtain ⟨answer, answer', middle, middle', hruns, hruns', hanswers, hmiddle⟩ := first before before' hstates
  cases hanswers with
  | error fault =>
    exact ⟨.error fault, .error fault, middle, middle', runs_bind_error.2 (.inl hruns),
      runs_bind_error.2 (.inl hruns'), .error fault, hmiddle⟩
  | ok h =>
    obtain ⟨answer, answer', after, after', hnext, hnext', hanswers, hafter⟩ := rest _ _ h middle middle' hmiddle
    exact ⟨answer, answer', after, after', runs_bind.2 (.inl ⟨_, middle, hruns, hnext⟩),
      runs_bind.2 (.inl ⟨_, middle', hruns', hnext'⟩), hanswers, hafter⟩

theorem tryCatch {handle : ε → ExceptT ε (StateM σ) α} {handle' : ε → ExceptT ε (StateM σ) β}
    (first : Agree related same action other) (rest : ∀ fault, Agree related same (handle fault) (handle' fault)) :
    Agree related same (MonadExcept.tryCatch action handle) (MonadExcept.tryCatch other handle') := by
  intro before before' hstates
  obtain ⟨answer, answer', middle, middle', hruns, hruns', hanswers, hmiddle⟩ := first before before' hstates
  cases hanswers with
  | ok h =>
    exact ⟨_, _, middle, middle', runs_tryCatch.2 (.inl ⟨_, hruns, rfl⟩), runs_tryCatch.2 (.inl ⟨_, hruns', rfl⟩),
      .ok h, hmiddle⟩
  | error fault =>
    obtain ⟨answer, answer', after, after', hnext, hnext', hanswers, hafter⟩ := rest fault middle middle' hmiddle
    exact ⟨answer, answer', after, after', runs_tryCatch.2 (.inr ⟨fault, middle, hruns, hnext⟩),
      runs_tryCatch.2 (.inr ⟨fault, middle', hruns', hnext'⟩), hanswers, hafter⟩

theorem ite {condition condition' : Prop} [Decidable condition] [Decidable condition'] (iff : condition ↔ condition')
    {alternative : ExceptT ε (StateM σ) α} {alternative' : ExceptT ε (StateM σ) β}
    (first : Agree related same action other) (second : Agree related same alternative alternative') :
    Agree related same (if condition then action else alternative) (if condition' then other else alternative') := by
  by_cases h : condition
  · rw [if_pos h, if_pos (iff.1 h)]
    exact first
  · rw [if_neg h, if_neg (mt iff.2 h)]
    exact second

theorem mapM {listed : γ → δ → Prop} {action : γ → ExceptT ε (StateM σ) α} {other : δ → ExceptT ε (StateM σ) α}
    (each : ∀ c d, listed c d → Agree related Eq (action c) (other d)) {list : List γ} {twins : List δ}
    (h : List.Forall₂ listed list twins) : Agree related Eq (list.mapM action) (twins.mapM other) := by
  induction h with
  | nil => exact Agree.pure rfl
  | cons first rest ih =>
    rw [List.mapM_cons, List.mapM_cons]
    refine Agree.bind (each _ _ first) fun a _ ha => Agree.bind ih fun results _ hresults => Agree.pure ?_
    rw [ha, hresults]

theorem forM {action : γ → ExceptT ε (StateM σ) PUnit} (each : ∀ c, Agree related Eq (action c) (action c))
    (list : List γ) : Agree related Eq (list.forM action) (list.forM action) := by
  induction list with
  | nil => exact Agree.pure rfl
  | cons c rest ih => exact Agree.bind (each c) fun _ _ _ => ih

end Agree

end GuestForge
