import UnityBuild.Proofs.Path.Detours

/-!
# Normal forms and extended paths

Normalising leaves a path of one of three shapes: the step that stays in place, the root with names
behind it, or parent steps with names behind them. The paths of these shapes that are written with
single separators are left as they are, so normalising is a projection onto them. A path can be
extended before or after both parts are normalised, since a stack of components takes the steps of the
extension and those of its normal form alike. So what a file leads to from a directory depends on the
normal forms of both only.

Main statement: `normalize_projects_and_joins`.
-/

namespace UnityBuild.Path

/-- The components that a normalised path can have. -/
inductive NormalShape : List Component → Prop
  | here : NormalShape [.current]
  | absolute (names : List Component) (hnames : AreNames names) : NormalShape (.root :: names)
  | relative (count : Nat) (names : List Component) (hnames : AreNames names)
      (hsome : List.replicate count Component.parent ++ names ≠ []) :
      NormalShape (List.replicate count .parent ++ names)

section Shapes

variable (p : Path)

/-- The components of a normalised path have a normal shape. -/
theorem normalShape_components_normalize : NormalShape p.normalize.components := by
  cases hp : p.isAbsolute with
  | true =>
    obtain ⟨names, hcomponents, hnames⟩ := exists_names_of_isAbsolute p hp
    rw [components_normalize, hcomponents, if_neg (List.cons_ne_nil _ _)]
    exact .absolute names hnames
  | false =>
    obtain ⟨count, names, hcomponents, hnames⟩ := exists_climb_of_relative p hp
    rw [components_normalize, hcomponents]
    split
    · exact .here
    · rename_i hsome
      exact .relative count names hnames hsome

/-- Components of a normal shape are written as they are when they are normalised. -/
theorem NormalShape.ofNormal_normalizeComponents {components : List Component}
    (h : NormalShape components) :
    ofNormal (normalizeComponents components) = ofComponents components := by
  cases h with
  | here => decide
  | absolute names hnames =>
    have hnormal : IsNormal (.root :: names) := isNormal_append_names [.root] names rfl hnames
    rw [normalizeComponents_of_isNormal _ hnormal, ofNormal, if_neg (List.cons_ne_nil _ _)]
  | relative count names hnames hsome =>
    have hparents : IsNormal (List.replicate count .parent) :=
      normalStack_of_all_parent _ fun c hc => List.eq_of_mem_replicate (List.mem_reverse.mp hc)
    have hnormal := isNormal_append_names _ names hparents hnames
    rw [normalizeComponents_of_isNormal _ hnormal, ofNormal, if_neg hsome]

/-- A normalised path is written from its components, with single separators. -/
theorem ofComponents_components_normalize : ofComponents p.normalize.components = p.normalize := by
  rw [components_normalize]
  split
  · rename_i hnil
    rw [normalize, hnil]
    rfl
  · rename_i hsome
    rw [normalize, ofNormal, if_neg hsome]

/-- The paths that normalising leaves as they are have a normal shape and single separators. -/
theorem normalize_eq_self_iff :
    p.normalize = p ↔ NormalShape p.components ∧ ofComponents p.components = p := by
  constructor
  · intro hself
    have hshape := p.normalShape_components_normalize
    have hwritten := p.ofComponents_components_normalize
    rw [hself] at hshape hwritten
    exact ⟨hshape, hwritten⟩
  · rintro ⟨hshape, hwritten⟩
    exact hshape.ofNormal_normalizeComponents.trans hwritten

/-- What is read from the text of a normalised path has its clean components, and these are its own
components exactly when a text writes it. -/
theorem components_ofText_toSlash_normalize_eq_iff :
    (ofText p.normalize.toSlash).components = p.normalize.components ↔ p.normalize.IsText := by
  rw [ofText_toSlash, components_clean]
  constructor
  · intro hclean
    rw [← p.ofComponents_components_normalize]
    refine isText_ofComponents _ fun c hc => ?_
    exact (List.map_eq_map_iff.mp (hclean.trans (List.map_id' _).symm)) c hc
  · intro htext
    exact map_clean_eq_self _ htext.clean_of_mem

end Shapes

section Extensions

variable (base step : Path)

/-- An absolute path takes the place of the path that it extends. -/
theorem join_of_isAbsolute (hstep : step.isAbsolute = true) : base.join step = step := by
  rw [join, pushChars, if_pos ((isAbsolute_iff step).mp hstep), String.ofList_toList]

/-- Components with the same normal form can be exchanged in front of others. -/
theorem normalizeComponents_append_congr (front front' behind : List Component)
    (h : normalizeComponents front = normalizeComponents front') :
    normalizeComponents (front ++ behind) = normalizeComponents (front' ++ behind) := by
  have hstack : front.foldl pushNormal [] = front'.foldl pushNormal [] := List.reverse_inj.mp h
  rw [normalizeComponents, normalizeComponents, List.foldl_append, List.foldl_append, hstack]

/-- Both parts of an extended path can be normalised beforehand. -/
theorem normalize_join :
    (base.join step).normalize = (base.normalize.join step.normalize).normalize := by
  cases hstep : step.isAbsolute with
  | true =>
    rw [join_of_isAbsolute base step hstep,
      join_of_isAbsolute _ _ (isAbsolute_normalize step hstep), normalize_normalize]
  | false =>
    have hnormal := isAbsolute_normalize_of_relative step hstep
    rw [normalize_eq_iff, normalizeComponents_join_normal base step hstep,
      normalizeComponents_join_normal _ _ hnormal, normalizeComponents_normalize step]
    exact normalizeComponents_append_congr _ _ _ (normalizeComponents_normalize base).symm

/-- A path that climbs further than it is extended from keeps the steps that are left. -/
example : (join ⟨"a//b/"⟩ ⟨"./../x/../../../c"⟩).normalize = ⟨"../c"⟩ := by decide +kernel

/-- A path leads from a normalised directory where it leads from the directory. -/
theorem resolve_normalize_base : step.resolve base.normalize = step.resolve base := by
  rw [resolve, resolve]
  split
  · rfl
  · rw [normalize_join base.normalize step, normalize_normalize, ← normalize_join]

/-- Where a path leads depends on the normal forms of the path and of the directory. -/
theorem resolve_congr (step' base' : Path) (hstep : step'.normalize = step.normalize)
    (hbase : base'.normalize = base.normalize) : step'.resolve base' = step.resolve base := by
  rw [← resolve_normalize_base base' step', ← resolve_normalize step', hstep, hbase,
    resolve_normalize, resolve_normalize_base]

end Extensions

/-- A normalised path is the step that stays, the root with names behind it, or parent steps with names
behind them. From its text its clean components are read, so its own components exactly when a text
writes it. The paths of this form are left as they are, a second normalising changes nothing, and both
parts of an extended path can be normalised beforehand. So where a file leads from a directory depends on
their normal forms only. -/
theorem normalize_projects_and_joins (p base step file directory : Path) :
    NormalShape p.normalize.components ∧
      (p.normalize = p ↔ NormalShape p.components ∧ ofComponents p.components = p) ∧
      p.normalize.normalize = p.normalize ∧
      (ofText p.normalize.toSlash).components = p.normalize.components.map Component.clean ∧
      ((ofText p.normalize.toSlash).components = p.normalize.components ↔ p.normalize.IsText) ∧
      (base.join step).normalize = (base.normalize.join step.normalize).normalize ∧
      ∀ file' directory' : Path, file'.normalize = file.normalize →
        directory'.normalize = directory.normalize →
          file'.resolve directory' = file.resolve directory := by
  have hread : (ofText p.normalize.toSlash).components = p.normalize.components.map Component.clean := by
    rw [ofText_toSlash, components_clean]
  exact ⟨p.normalShape_components_normalize, p.normalize_eq_self_iff, normalize_normalize p, hread,
    p.components_ofText_toSlash_normalize_eq_iff, normalize_join base step,
    fun file' directory' => resolve_congr directory file file' directory'⟩

/-- A name that is not UTF-8 is not read back from the text of a normalised path. -/
theorem lost_byte_is_not_read_back :
    let p : Path := ⟨"/p/\xff.c"⟩
    p.normalize = p ∧ p.toSlash = "/p/\uFFFD.c" ∧
      (ofText p.normalize.toSlash).components ≠ p.normalize.components := by
  decide +kernel

/-- Two spellings of a file lead to the same from two spellings of a directory. -/
theorem normalize_projects_and_joins_spellings :
    let file : Path := ⟨"../x/.././src/a.c"⟩
    let file' : Path := ⟨".//../src/a.c"⟩
    let directory : Path := ⟨"/proj/build/"⟩
    let directory' : Path := ⟨"/../proj/lib/../build"⟩
    file'.normalize = file.normalize ∧ directory'.normalize = directory.normalize ∧
      file'.resolve directory' = file.resolve directory := by
  intro file file' directory directory'
  have hfile : file'.normalize = file.normalize := by decide +kernel
  have hdirectory : directory'.normalize = directory.normalize := by decide +kernel
  obtain ⟨-, -, -, -, -, -, hsame⟩ :=
    normalize_projects_and_joins file directory file file directory
  exact ⟨hfile, hdirectory, hsame file' directory' hfile hdirectory⟩

end UnityBuild.Path
