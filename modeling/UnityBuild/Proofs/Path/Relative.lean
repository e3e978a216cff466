import UnityBuild.Proofs.Path.NormalForm

/-!
# The way from a directory to a file

The way from one absolute path to another leads back by one step for each component that only the
first has and then on by what only the second has. Following the way from where it starts leads to
the file again, so different files have different ways.

Main statements: `resolve_relativeTo` and `relativeTo_eq_iff`.
-/

namespace UnityBuild.Path

/-- A path is absolute exactly when its first component is the root. -/
theorem isAbsolute_iff_head_components (p : Path) :
    p.isAbsolute = true ↔ p.components.head? = some .root := by
  rw [isAbsolute_iff, components, componentsOf_eq, leading]
  by_cases hroot : p.octets.toList.head? = some '/'
  · simp [hroot]
  · rw [if_neg hroot]
    split
    · simp [hroot]
    · simp only [hroot, List.nil_append, false_iff]
      intro h
      exact isStep_of_mem_innerComponents _ _ (List.mem_of_head? h)

/-- Above the root a normal stack holds names alone. -/
theorem areNames_of_normalStack_root (above : List Component)
    (h : NormalStack (above ++ [.root])) : AreNames above := by
  induction above with
  | nil => exact .nil
  | cons top above ih =>
    cases top with
    | root => exact absurd h (by simp [NormalStack])
    | current => exact h.elim
    | parent =>
      have hparent : ∀ c ∈ above ++ [.root], c = .parent := h
      exact absurd (hparent .root (List.mem_append_right _ List.mem_cons_self)) (by decide)
    | normal name => exact .cons h.1 (ih h.2)

/-- Steps never take the root away from the bottom of a stack. -/
theorem foldl_pushNormal_root (above steps : List Component) :
    ∃ above', steps.foldl pushNormal (above ++ [.root]) = above' ++ [.root] := by
  induction steps generalizing above with
  | nil => exact ⟨above, rfl⟩
  | cons c steps ih =>
    have hpush : ∃ above', pushNormal (above ++ [.root]) c = above' ++ [.root] := by
      cases c with
      | root => exact ⟨.root :: above, rfl⟩
      | current => exact ⟨above, rfl⟩
      | normal name => exact ⟨.normal name :: above, rfl⟩
      | parent =>
        match above with
        | [] => exact ⟨[], rfl⟩
        | .normal name :: above => exact ⟨above, rfl⟩
        | .root :: above => exact ⟨.root :: above, rfl⟩
        | .current :: above => exact ⟨.parent :: .current :: above, rfl⟩
        | .parent :: above => exact ⟨.parent :: .parent :: above, rfl⟩
    obtain ⟨above', habove'⟩ := hpush
    rw [List.foldl_cons, habove']
    exact ih above'

/-- The normal form of an absolute path is the root with names behind it. -/
theorem exists_names_of_isAbsolute (p : Path) (hp : p.isAbsolute = true) :
    ∃ names, normalizeComponents p.components = .root :: names ∧ AreNames names := by
  have hnormal := isNormal_normalizeComponents p
  obtain ⟨above, habove⟩ := foldl_pushNormal_root [] (innerComponents p.octets.toList)
  have hcomponents : normalizeComponents p.components = .root :: above.reverse := by
    rw [normalizeComponents_components, if_pos hp, ← List.nil_append [Component.root], habove]
    simp
  rw [IsNormal, hcomponents, List.reverse_cons, List.reverse_reverse] at hnormal
  exact ⟨above.reverse, hcomponents, (areNames_of_normalStack_root above hnormal).reverse⟩

/-- Normalising keeps a path absolute. -/
theorem isAbsolute_normalize (p : Path) (hp : p.isAbsolute = true) : p.normalize.isAbsolute = true := by
  obtain ⟨names, hnames, -⟩ := exists_names_of_isAbsolute p hp
  rw [isAbsolute_iff_head_components, components_normalize, hnames]
  rfl

/-- A path that extends an absolute path is absolute. -/
theorem isAbsolute_join (base step : Path) (hbase : base.isAbsolute = true) :
    (base.join step).isAbsolute = true := by
  have hhead := (isAbsolute_iff base).mp hbase
  have hne : base.octets.toList ≠ [] := by
    intro h
    rw [h] at hhead
    cases hhead
  rw [isAbsolute_iff, join, String.toList_ofList, pushChars]
  split
  · assumption
  · split
    · rw [List.head?_append_of_ne_nil _ hne, hhead]
    · rw [List.head?_append_of_ne_nil _ hne, hhead]

/-- What is read from an absolute directory is absolute. -/
theorem isAbsolute_resolve (p base : Path) (hbase : base.isAbsolute = true) :
    (p.resolve base).isAbsolute = true := by
  rw [resolve]
  split
  · rename_i hp
    exact isAbsolute_normalize p hp
  · exact isAbsolute_normalize _ (isAbsolute_join base p hbase)

/-- What is read from a directory is normalised. -/
theorem normalize_resolve (p base : Path) : (p.resolve base).normalize = p.resolve base := by
  rw [resolve]
  split
  · exact normalize_normalize p
  · exact normalize_normalize _

/-- Removing the common start of two lists leaves their ends. -/
theorem exists_dropCommon (as bs : List Component) :
    ∃ start, as = start ++ (dropCommon as bs).1 ∧ bs = start ++ (dropCommon as bs).2 := by
  induction as generalizing bs with
  | nil => exact ⟨[], rfl, rfl⟩
  | cons a as ih =>
    cases bs with
    | nil => exact ⟨[], rfl, rfl⟩
    | cons b bs =>
      by_cases hab : a = b
      · subst hab
        obtain ⟨start, has, hbs⟩ := ih bs
        refine ⟨a :: start, ?_, ?_⟩
        · rw [dropCommon, if_pos rfl, List.cons_append, ← has]
        · rw [dropCommon, if_pos rfl, List.cons_append, ← hbs]
      · rw [dropCommon, if_neg hab]
        exact ⟨[], rfl, rfl⟩

/-- Parent steps take as many names off a stack. -/
theorem foldl_pushNormal_parents (names stack : List Component) (hnames : AreNames names) :
    (names.map fun _ => Component.parent).foldl pushNormal (names ++ stack) = stack := by
  induction names with
  | nil => rfl
  | cons c names ih =>
    obtain ⟨name, rfl, -⟩ := hnames c List.mem_cons_self
    exact ih hnames.of_cons

/-- Names are put on a stack one by one. -/
theorem foldl_pushNormal_names (names stack : List Component) (hnames : AreNames names) :
    names.foldl pushNormal stack = names.reverse ++ stack := by
  induction names generalizing stack with
  | nil => rfl
  | cons c names ih =>
    obtain ⟨name, rfl, -⟩ := hnames c List.mem_cons_self
    have htail := ih (.normal name :: stack) hnames.of_cons
    rw [List.foldl_cons, List.reverse_cons, List.append_assoc]
    exact htail

/-- The way to an absolute path leads back by parent steps and on by names with which the path ends, and
following it from the directory where it starts leads to the path. -/
theorem exists_relativeTo (p base : Path) (hp : p.isAbsolute = true) (hbase : base.isAbsolute = true) :
    ∃ back names : List Component, p.relativeTo base =
        ofNormal (back.map (fun _ => Component.parent) ++ names) ∧
      AreNames names ∧ names <:+ normalizeComponents p.components ∧
      normalizeComponents (base.components ++ (back.map (fun _ => Component.parent) ++ names)) =
        normalizeComponents p.components := by
  obtain ⟨ps, hps, hpnames⟩ := exists_names_of_isAbsolute p hp
  obtain ⟨bs, hbs, hbnames⟩ := exists_names_of_isAbsolute base hbase
  obtain ⟨start, hpstart, hbstart⟩ := exists_dropCommon ps bs
  generalize hdrop : dropCommon ps bs = rest at hpstart hbstart
  obtain ⟨names, back⟩ := rest
  dsimp only at hpstart hbstart
  have hnames : AreNames names := (hpstart ▸ hpnames).of_append_right
  have hback : AreNames back.reverse := (hbstart ▸ hbnames).of_append_right.reverse
  refine ⟨back, names, ?_, hnames, ⟨.root :: start, by rw [hps, hpstart, List.cons_append]⟩, ?_⟩
  · have hcommon : dropCommon (Component.root :: ps) (Component.root :: bs) = (names, back) := by
      rw [dropCommon, if_pos rfl, hdrop]
    rw [relativeTo, if_pos hp, components_normalize, components_normalize, hps, hbs,
      if_neg (List.cons_ne_nil _ _), if_neg (List.cons_ne_nil _ _), hcommon]
  · have hstack : base.components.foldl pushNormal [] = back.reverse ++ (.root :: start).reverse := by
      rw [← List.reverse_append, List.cons_append, ← hbstart, ← hbs, normalizeComponents,
        List.reverse_reverse]
    have hparents : back.map (fun _ => Component.parent) =
        back.reverse.map (fun _ => Component.parent) := by
      simp [List.map_const']
    rw [normalizeComponents, List.foldl_append, List.foldl_append, hstack, hparents,
      foldl_pushNormal_parents _ _ hback, foldl_pushNormal_names _ _ hnames, hps, hpstart]
    simp

/-- Names behind a normal form make a normal form. -/
theorem isNormal_append_names (start names : List Component) (hstart : IsNormal start)
    (hnames : AreNames names) : IsNormal (start ++ names) := by
  rw [IsNormal, List.reverse_append, ← foldl_pushNormal_names names _ hnames]
  exact normalStack_foldl_pushNormal _ names hstart hnames.isStep

/-- Parent steps with names behind them are in normal form. -/
theorem isNormal_parents_names (back names : List Component) (hnames : AreNames names) :
    IsNormal (back.map (fun _ => Component.parent) ++ names) := by
  apply isNormal_append_names _ names _ hnames
  apply normalStack_of_all_parent
  intro c hc
  obtain ⟨-, -, rfl⟩ := List.mem_map.mp (List.mem_reverse.mp hc)
  rfl

/-- Parent steps with names behind them are written as a relative path. -/
theorem isAbsolute_ofNormal_parents_names (back names : List Component) (hnames : AreNames names) :
    (ofNormal (back.map (fun _ => Component.parent) ++ names)).isAbsolute = false := by
  rw [Bool.eq_false_iff, ne_eq, isAbsolute_iff_head_components,
    components_ofNormal _ (isNormal_parents_names back names hnames)]
  split
  · decide
  · intro h
    rcases List.mem_append.mp (List.mem_of_head? h) with hback | hname
    · obtain ⟨-, -, heq⟩ := List.mem_map.mp hback
      cases heq
    · obtain ⟨name, heq, -⟩ := hnames _ hname
      cases heq

/-- The way to a file is a relative path. -/
theorem isAbsolute_relativeTo (p root : Path) (hp : p.isAbsolute = true)
    (hroot : root.isAbsolute = true) : (p.relativeTo root).isAbsolute = false := by
  obtain ⟨back, names, hway, hnames, -⟩ := exists_relativeTo p root hp hroot
  rw [hway]
  exact isAbsolute_ofNormal_parents_names back names hnames

/-- The way to a file, followed from where it starts, leads to the file. -/
theorem resolve_relativeTo (p root : Path) (hp : p.isAbsolute = true) (hroot : root.isAbsolute = true) :
    (p.relativeTo root).resolve root = p.normalize := by
  obtain ⟨back, names, hway, hnames, -, hback⟩ := exists_relativeTo p root hp hroot
  have hrelative := isAbsolute_relativeTo p root hp hroot
  have hnormal := isNormal_parents_names back names hnames
  have hread : normalizeComponents (root.components ++ (p.relativeTo root).components) =
      normalizeComponents p.components := by
    rw [← hback, hway, components_ofNormal _ hnormal]
    split
    · rename_i hnil
      rw [hnil, normalizeComponents, normalizeComponents, List.foldl_append, List.append_nil]
      rfl
    · rfl
  rw [resolve, hrelative, if_neg Bool.false_ne_true, normalize_eq_iff,
    normalizeComponents_join root _ hrelative, hread]

/-- Files have the same way exactly when their paths have the same normal form. -/
theorem relativeTo_eq_iff (p q root : Path) (hp : p.isAbsolute = true) (hq : q.isAbsolute = true)
    (hroot : root.isAbsolute = true) :
    p.relativeTo root = q.relativeTo root ↔ p.normalize = q.normalize := by
  constructor
  · intro h
    rw [← resolve_relativeTo p root hp hroot, h, resolve_relativeTo q root hq hroot]
  · intro h
    rw [relativeTo, relativeTo, if_pos hp, if_pos hq, h]

end UnityBuild.Path
