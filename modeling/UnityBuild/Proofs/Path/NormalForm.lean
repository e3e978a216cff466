import UnityBuild.Proofs.Path.Components

/-!
# The normal form of a path

Components are put on a stack one by one. The stack always holds names above either the root or a
run of parent steps, and putting the components of such a stack on a stack again rebuilds it. So
normalising is a projection onto the normal forms, and the normal form of an extended path depends
only on the components of its two parts.

Main statements: `components_normalize`, `normalize_normalize` and `normalizeComponents_join`.
-/

namespace UnityBuild.Path

/-- A stack of components in normal form, top first: names above the root or above parent steps. -/
def NormalStack : List Component → Prop
  | [] => True
  | .root :: below => below = []
  | .normal name :: below => IsFileName name ∧ NormalStack below
  | .parent :: below => ∀ c ∈ below, c = .parent
  | .current :: _ => False

/-- Components in normal form, in the order of the path. -/
def IsNormal (components : List Component) : Prop :=
  NormalStack components.reverse

/-- Parent steps alone are in normal form. -/
theorem normalStack_of_all_parent (stack : List Component) (h : ∀ c ∈ stack, c = .parent) :
    NormalStack stack := by
  cases stack with
  | nil => trivial
  | cons c below =>
    obtain rfl := h c List.mem_cons_self
    exact fun d hd => h d (List.mem_cons_of_mem _ hd)

/-- A step keeps a stack in normal form. -/
theorem normalStack_pushNormal (stack : List Component) (c : Component) (hstack : NormalStack stack)
    (hc : c.IsStep) : NormalStack (pushNormal stack c) := by
  cases c with
  | root => exact hc.elim
  | current => exact hc.elim
  | normal name => exact ⟨hc, hstack⟩
  | parent =>
    cases stack with
    | nil => exact fun d hd => absurd hd List.not_mem_nil
    | cons top below =>
      cases top with
      | root => exact hstack
      | current => exact hstack.elim
      | normal name => exact hstack.2
      | parent =>
        intro d hd
        rcases List.mem_cons.mp hd with rfl | hbelow
        · rfl
        · exact hstack d hbelow

/-- Steps keep a stack in normal form. -/
theorem normalStack_foldl_pushNormal (stack steps : List Component) (hstack : NormalStack stack)
    (hsteps : ∀ c ∈ steps, c.IsStep) : NormalStack (steps.foldl pushNormal stack) := by
  induction steps generalizing stack with
  | nil => exact hstack
  | cons c steps ih =>
    exact ih (pushNormal stack c) (normalStack_pushNormal stack c hstack (hsteps c List.mem_cons_self))
      fun d hd => hsteps d (List.mem_cons_of_mem _ hd)

/-- The part of a normal stack below any place is in normal form. -/
theorem normalStack_of_append (above below : List Component) (h : NormalStack (above ++ below)) :
    NormalStack below := by
  induction above with
  | nil => exact h
  | cons c above ih =>
    cases c with
    | root =>
      have hnil : above ++ below = [] := h
      rw [(List.append_eq_nil_iff.mp hnil).2]
      trivial
    | current => exact h.elim
    | normal name => exact ih h.2
    | parent => exact normalStack_of_all_parent below fun d hd => h d (List.mem_append_right _ hd)

/-- A component that makes a normal stack is put on top. -/
theorem pushNormal_of_normalStack (c : Component) (stack : List Component)
    (h : NormalStack (c :: stack)) : pushNormal stack c = c :: stack := by
  cases c with
  | root => rfl
  | current => exact h.elim
  | normal name => rfl
  | parent =>
    cases stack with
    | nil => rfl
    | cons top below =>
      obtain rfl := h top List.mem_cons_self
      rfl

/-- Components that make a normal stack are put on top one by one. -/
theorem foldl_pushNormal_of_normalStack (stack components : List Component)
    (h : NormalStack (components.reverse ++ stack)) :
    components.foldl pushNormal stack = components.reverse ++ stack := by
  induction components generalizing stack with
  | nil => rfl
  | cons c components ih =>
    rw [List.reverse_cons, List.append_assoc, List.singleton_append] at h
    rw [List.foldl_cons, pushNormal_of_normalStack c stack (normalStack_of_append _ _ h),
      ih (c :: stack) h]
    simp

/-- Components in normal form are their own normal form. -/
theorem normalizeComponents_of_isNormal (components : List Component) (h : IsNormal components) :
    normalizeComponents components = components := by
  have hstack : NormalStack (components.reverse ++ []) := by
    rw [List.append_nil]
    exact h
  rw [normalizeComponents, foldl_pushNormal_of_normalStack [] components hstack]
  simp

/-- Pushing components on a stack adds nothing but parent steps and these components. -/
theorem mem_foldl_pushNormal (stack components : List Component) (c : Component)
    (hc : c ∈ components.foldl pushNormal stack) : c = .parent ∨ c ∈ stack ∨ c ∈ components := by
  induction components generalizing stack with
  | nil => exact .inr (.inl hc)
  | cons d components ih =>
    have hpush : ∀ e ∈ pushNormal stack d, e = .parent ∨ e ∈ stack ∨ e = d := by
      intro e he
      unfold pushNormal at he
      split at he
      · exact .inr (.inl he)
      · split at he
        · exact .inr (.inl (List.mem_cons_of_mem _ he))
        · exact .inr (.inl he)
        · rcases List.mem_cons.mp he with rfl | hstack
          · exact .inl rfl
          · exact .inr (.inl hstack)
      · rcases List.mem_cons.mp he with rfl | hstack
        · exact .inr (.inr rfl)
        · exact .inr (.inl hstack)
    rcases ih _ hc with hparent | hstack | hrest
    · exact .inl hparent
    · rcases hpush c hstack with hparent | hbelow | rfl
      · exact .inl hparent
      · exact .inr (.inl hbelow)
      · exact .inr (.inr List.mem_cons_self)
    · exact .inr (.inr (List.mem_cons_of_mem d hrest))

/-- A normal form has no components but parent steps and those it was made from. -/
theorem mem_normalizeComponents (components : List Component) (c : Component)
    (hc : c ∈ normalizeComponents components) : c = .parent ∨ c ∈ components := by
  rcases mem_foldl_pushNormal [] components c (List.mem_reverse.mp hc) with hparent | hnone | hmem
  · exact .inl hparent
  · cases hnone
  · exact .inr hmem

/-- The first component of a path and its steps, as far as the normal form sees them. -/
theorem normalizeComponents_components (p : Path) :
    normalizeComponents p.components =
      ((innerComponents p.octets.toList).foldl pushNormal
        (if p.isAbsolute then [.root] else [])).reverse := by
  rw [normalizeComponents, components, componentsOf_eq, leading]
  by_cases hroot : p.octets.toList.head? = some '/'
  · rw [if_pos hroot, if_pos ((isAbsolute_iff p).mpr hroot)]
    rfl
  · rw [if_neg hroot, if_neg (fun h => hroot ((isAbsolute_iff p).mp h))]
    split
    · rfl
    · rfl

/-- Normalising the components of a path gives a normal form. -/
theorem isNormal_normalizeComponents (p : Path) : IsNormal (normalizeComponents p.components) := by
  rw [normalizeComponents_components, IsNormal, List.reverse_reverse]
  apply normalStack_foldl_pushNormal _ _ _ (isStep_of_mem_innerComponents _)
  split
  · rfl
  · trivial

/-- In a normal stack only the lowest place can hold something other than a step. -/
theorem isStep_of_normalStack (above : List Component) (bottom : Component)
    (h : NormalStack (above ++ [bottom])) : bottom.IsStart ∧ ∀ c ∈ above, c.IsStep := by
  induction above with
  | nil =>
    cases bottom with
    | normal name => exact ⟨h.1, fun c hc => absurd hc List.not_mem_nil⟩
    | root => exact ⟨trivial, fun c hc => absurd hc List.not_mem_nil⟩
    | current => exact h.elim
    | parent => exact ⟨trivial, fun c hc => absurd hc List.not_mem_nil⟩
  | cons top above ih =>
    cases top with
    | root => exact absurd h (by simp [NormalStack])
    | current => exact h.elim
    | normal name =>
      obtain ⟨hbottom, habove⟩ := ih h.2
      refine ⟨hbottom, fun c hc => ?_⟩
      rcases List.mem_cons.mp hc with rfl | hc
      · exact h.1
      · exact habove c hc
    | parent =>
      have hparent : ∀ c ∈ above ++ [bottom], c = .parent := h
      obtain rfl := hparent bottom (List.mem_append_right _ List.mem_cons_self)
      refine ⟨trivial, fun c hc => ?_⟩
      rcases List.mem_cons.mp hc with rfl | hc
      · trivial
      · obtain rfl := hparent c (List.mem_append_left _ hc)
        trivial

/-- A normal form that is written as a path is read back, and the empty one as the step that
stays. -/
theorem components_ofNormal (components : List Component) (h : IsNormal components) :
    (ofNormal components).components = if components = [] then [.current] else components := by
  cases components with
  | nil => decide
  | cons first steps =>
    rw [IsNormal, List.reverse_cons] at h
    obtain ⟨hfirst, hsteps⟩ := isStep_of_normalStack steps.reverse first h
    rw [ofNormal, if_neg (List.cons_ne_nil _ _), if_neg (List.cons_ne_nil _ _)]
    exact components_ofComponents first steps hfirst fun c hc => hsteps c (List.mem_reverse.mpr hc)

/-- Writing a normal form as a path loses nothing of it. -/
theorem normalizeComponents_ofNormal (components : List Component) (h : IsNormal components) :
    normalizeComponents (ofNormal components).components = components := by
  rw [components_ofNormal components h]
  split
  · rename_i hnil
    rw [hnil]
    rfl
  · exact normalizeComponents_of_isNormal components h

/-- The components of a normalised path. -/
theorem components_normalize (p : Path) :
    p.normalize.components =
      if normalizeComponents p.components = [] then [.current]
      else normalizeComponents p.components :=
  components_ofNormal _ (isNormal_normalizeComponents p)

/-- A normalised path has the normal form of the path. -/
theorem normalizeComponents_normalize (p : Path) :
    normalizeComponents p.normalize.components = normalizeComponents p.components :=
  normalizeComponents_ofNormal _ (isNormal_normalizeComponents p)

/-- Normalising a second time changes nothing. -/
theorem normalize_normalize (p : Path) : p.normalize.normalize = p.normalize :=
  congrArg ofNormal (normalizeComponents_normalize p)

/-- Paths are normalised to the same path exactly when their normal forms agree. -/
theorem normalize_eq_iff (p q : Path) :
    p.normalize = q.normalize ↔
      normalizeComponents p.components = normalizeComponents q.components := by
  constructor
  · intro h
    have hread := congrArg (fun r : Path => normalizeComponents r.components) h
    rwa [normalizeComponents_normalize, normalizeComponents_normalize] at hread
  · intro h
    rw [normalize, normalize, h]

/-- The normal form of an extended path is that of all components in order. -/
theorem normalizeComponents_join (base step : Path) (hstep : step.isAbsolute = false) :
    normalizeComponents (base.join step).components =
      normalizeComponents (base.components ++ step.components) := by
  have hinner (stack : List Component) : step.components.foldl pushNormal stack =
      (innerComponents step.octets.toList).foldl pushNormal stack := by
    rw [components, componentsOf_eq, leading, if_neg ((isAbsolute_eq_false_iff step).mp hstep)]
    split
    · rfl
    · rfl
  by_cases hbase : base.octets.toList = []
  · have hempty : base = empty := congrArg Path.mk (String.toList_eq_nil_iff.mp hbase)
    rw [hempty, empty_join]
    rfl
  · rw [components_join base step hbase hstep, normalizeComponents, normalizeComponents,
      List.foldl_append, List.foldl_append, hinner]

end UnityBuild.Path
