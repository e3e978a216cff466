import Mathlib.Data.List.Basic

/-!
# Results of steps that may fail

What a chain of steps gives is told from what its steps give: it succeeds when all of them do, and
it fails as the first step that fails. The same holds of a list that is read member by member.
-/

namespace UnityBuild.Results

variable {α β ε ε' : Type}

section Steps

variable (result : Except ε α)

/-- A step with another one behind it succeeds when both do. -/
theorem bind_eq_ok_iff (next : α → Except ε β) (b : β) :
    (result >>= next) = .ok b ↔ ∃ a, result = .ok a ∧ next a = .ok b := by
  cases result <;> simp [bind, Except.bind]

/-- A step with another one behind it fails as the first of them that does. -/
theorem bind_eq_error_iff (next : α → Except ε β) (e : ε) :
    (result >>= next) = .error e ↔ result = .error e ∨ ∃ a, result = .ok a ∧ next a = .error e := by
  cases result <;> simp [bind, Except.bind]

/-- A step whose value is changed succeeds when the step does. -/
theorem map_eq_ok_iff (f : α → β) (b : β) :
    result.map f = .ok b ↔ ∃ a, result = .ok a ∧ f a = b := by
  cases result <;> simp [Except.map]

/-- A step whose value is changed fails as the step does. -/
theorem map_eq_error_iff (f : α → β) (e : ε) : result.map f = .error e ↔ result = .error e := by
  cases result <;> simp [Except.map]

/-- A step whose error is changed succeeds as the step does. -/
theorem mapError_eq_ok_iff (f : ε → ε') (a : α) : result.mapError f = .ok a ↔ result = .ok a := by
  cases result <;> simp [Except.mapError]

/-- A step whose error is changed fails when the step does. -/
theorem mapError_eq_error_iff (f : ε → ε') (e' : ε') :
    result.mapError f = .error e' ↔ ∃ e, result = .error e ∧ f e = e' := by
  cases result <;> simp [Except.mapError]

end Steps

/-- Reading a list fails as its first member that cannot be read. -/
theorem mapM_eq_error_iff (f : α → Except ε β) (l : List α) (e : ε) :
    l.mapM f = .error e ↔
      ∃ front a behind, l = front ++ a :: behind ∧ (∀ b ∈ front, ∃ c, f b = .ok c) ∧
        f a = .error e := by
  induction l with
  | nil => simp [pure, Except.pure]
  | cons a l ih =>
    rw [List.mapM_cons, bind_eq_error_iff]
    constructor
    · rintro (ha | ⟨b, hb, hrest⟩)
      · exact ⟨[], a, l, rfl, fun _ h => absurd h List.not_mem_nil, ha⟩
      · have hl : l.mapM f = .error e := by
          simpa [bind_eq_error_iff, pure, Except.pure] using hrest
        obtain ⟨front, x, behind, rfl, hfront, hx⟩ := ih.mp hl
        exact ⟨a :: front, x, behind, rfl, List.forall_mem_cons.mpr ⟨⟨b, hb⟩, hfront⟩, hx⟩
    · rintro ⟨front, x, behind, hl, hfront, hx⟩
      cases front with
      | nil =>
        obtain ⟨rfl, rfl⟩ := List.cons.inj hl
        exact .inl hx
      | cons y front =>
        obtain ⟨rfl, rfl⟩ := List.cons.inj hl
        obtain ⟨⟨b, hb⟩, hfront⟩ := List.forall_mem_cons.mp hfront
        have hrest := ih.mpr ⟨front, x, behind, rfl, hfront, hx⟩
        exact .inr ⟨b, hb, (bind_eq_error_iff _ _ _).mpr (.inl hrest)⟩

end UnityBuild.Results
