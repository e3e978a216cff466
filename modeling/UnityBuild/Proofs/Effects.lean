import Mathlib.Order.Defs.Unbundled

/-!
# Actions that move a state along a relation

An action that can fail keeps what it changed before failing. When a relation between states is
reflexive and transitive, an action moves the state along it as soon as each of its steps does,
whatever the steps answer and wherever the action stops.
-/

namespace UnityBuild

variable {σ ε α β : Type} {R : σ → σ → Prop}

/-- Whatever the action answers, it leaves a state to which the relation leads. -/
def Moves (R : σ → σ → Prop) (action : ExceptT ε (StateM σ) α) : Prop :=
  ∀ s, R s (action s).2

/-- What stands behind a step goes on from its answer, and not at all when the step fails. -/
theorem bind_apply (action : ExceptT ε (StateM σ) α) (next : α → ExceptT ε (StateM σ) β) (s : σ) :
    (action >>= next) s =
      match action s with
      | (.ok a, s') => next a s'
      | (.error e, s') => (.error e, s') := by
  have hrun : (action >>= next) s =
      (ExceptT.bindCont next (action s).1 : StateM σ (Except ε β)) (action s).2 := rfl
  rw [hrun]
  cases action s with
  | mk result s' =>
    cases result with
    | error e => rfl
    | ok a => rfl

/-- When a step with something behind it succeeds, the step has succeeded, and what stands behind it
has from there on. -/
theorem exists_of_bind_eq_ok (action : ExceptT ε (StateM σ) α) (next : α → ExceptT ε (StateM σ) β)
    (s s' : σ) (b : β) (h : (action >>= next) s = (.ok b, s')) :
    ∃ a middle, action s = (.ok a, middle) ∧ next a middle = (.ok b, s') := by
  rw [bind_apply] at h
  cases hresult : action s with
  | mk result middle =>
    rw [hresult] at h
    cases result with
    | error e => cases h
    | ok a => exact ⟨a, middle, rfl, h⟩

/-- A step with something behind it succeeds exactly when the step does and what stands behind it
does from there on. -/
theorem bind_eq_ok_iff (action : ExceptT ε (StateM σ) α) (next : α → ExceptT ε (StateM σ) β)
    (s s' : σ) (b : β) :
    (action >>= next) s = (.ok b, s') ↔
      ∃ a middle, action s = (.ok a, middle) ∧ next a middle = (.ok b, s') := by
  constructor
  · exact exists_of_bind_eq_ok action next s s' b
  · rintro ⟨a, middle, haction, hnext⟩
    rw [bind_apply, haction]
    exact hnext

/-- A step with something behind it ends where the step fails, or ends as what stands behind it does
from where the step has succeeded. -/
theorem cases_of_bind_eq (action : ExceptT ε (StateM σ) α) (next : α → ExceptT ε (StateM σ) β)
    (s s' : σ) (result : Except ε β) (h : (action >>= next) s = (result, s')) :
    (∃ e, action s = (.error e, s') ∧ result = .error e) ∨
      ∃ a middle, action s = (.ok a, middle) ∧ next a middle = (result, s') := by
  rw [bind_apply] at h
  cases hresult : action s with
  | mk first middle =>
    rw [hresult] at h
    cases first with
    | error e =>
      obtain ⟨hfailed, rfl⟩ := Prod.mk.inj h
      exact .inl ⟨e, rfl, hfailed.symm⟩
    | ok a => exact .inr ⟨a, middle, rfl, h⟩

namespace Moves

/-- An action that leaves the state alone moves along every reflexive relation. -/
theorem of_snd_eq [Std.Refl R] (action : ExceptT ε (StateM σ) α) (h : ∀ s, (action s).2 = s) :
    Moves R action := by
  intro s
  rw [h s]
  exact refl_of R s

/-- Answering moves nothing. -/
theorem pure [Std.Refl R] (a : α) : Moves R (pure a : ExceptT ε (StateM σ) α) :=
  fun s => refl_of R s

/-- Failing moves nothing. -/
theorem throw [Std.Refl R] (e : ε) : Moves R (throw e : ExceptT ε (StateM σ) α) :=
  fun s => refl_of R s

/-- What goes on from the current state is judged there. -/
theorem get_bind (next : σ → ExceptT ε (StateM σ) β) (h : ∀ s, R s (next s s).2) :
    Moves R (get >>= next) :=
  h

/-- A step with something behind it moves along a transitive relation when both do. What stands
behind the step needs to do so only for answers that the step can give. -/
theorem bind_of_ok [IsTrans σ R] (action : ExceptT ε (StateM σ) α)
    (next : α → ExceptT ε (StateM σ) β) (haction : Moves R action)
    (hnext : ∀ a s s', action s = (.ok a, s') → R s' (next a s').2) :
    Moves R (action >>= next) := by
  intro s
  have hfirst := haction s
  rw [bind_apply]
  cases hresult : action s with
  | mk result s' =>
    rw [hresult] at hfirst
    cases result with
    | error e => exact hfirst
    | ok a => exact trans_of R hfirst (hnext a s s' hresult)

/-- A step with something behind it moves along a transitive relation when both do. -/
theorem bind [IsTrans σ R] (action : ExceptT ε (StateM σ) α) (next : α → ExceptT ε (StateM σ) β)
    (haction : Moves R action) (hnext : ∀ a, Moves R (next a)) : Moves R (action >>= next) :=
  bind_of_ok action next haction fun a _ s' _ => hnext a s'

end Moves

end UnityBuild
