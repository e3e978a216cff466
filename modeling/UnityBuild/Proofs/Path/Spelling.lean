import UnityBuild.Proofs.Path.Relative
import UnityBuild.Proofs.Path.Texts

/-!
# The spelling under which a project knows a file

Under an absolute root the way to a file is a relative path in normal form, whether the path of the
file is absolute or not; under a relative root it is the normal form of the path. The spelling is the
way as a text. Bytes that are not UTF-8 are lost in it, but the spelling of a spelling is the spelling
itself all the same, and where no bytes are lost the way is read back from it. The spelling of a text's
path has no characters that the text does not have, except separators and dots. A relative path counts
as read from the root already, so two different files can share a way only when one of them is
relative.

Main statements: `relativeTo_eq_self_iff`, `relativeSlash_relativeSlash`, `relativeSlash_eq_iff`,
`countP_relativeSlash_le` and `relativeTo_eq_iff_of_normal`.
-/

namespace UnityBuild

namespace Path

section Components

/-- Normalising keeps a path relative. -/
theorem isAbsolute_normalize_of_relative (p : Path) (hp : p.isAbsolute = false) :
    p.normalize.isAbsolute = false := by
  rw [Bool.eq_false_iff, ne_eq, isAbsolute_iff_head_components, components_normalize]
  split
  · simp
  · intro hroot
    have hmem := List.mem_reverse.mp (List.mem_of_head? hroot)
    rcases mem_foldl_pushNormal [] p.components .root hmem with h | h | h
    · cases h
    · cases h
    · rw [components, componentsOf_eq, leading, if_neg ((isAbsolute_eq_false_iff p).mp hp)] at h
      rcases List.mem_append.mp h with hleading | hinner
      · split at hleading
        · cases List.mem_singleton.mp hleading
        · cases hleading
      · exact isStep_of_mem_innerComponents _ _ hinner

/-- A clean path is absolute exactly when the path is. -/
theorem isAbsolute_clean (p : Path) : p.clean.isAbsolute = p.isAbsolute := by
  rw [Bool.eq_iff_iff, isAbsolute_iff_head_components, isAbsolute_iff_head_components, components_clean,
    List.head?_map, Option.map_eq_some_iff]
  constructor
  · rintro ⟨c, hc, hroot⟩
    cases c with
    | root => exact hc
    | current => cases hroot
    | parent => cases hroot
    | normal name => cases hroot
  · exact fun hc => ⟨.root, hc, rfl⟩

end Components

section Ways

variable (p root : Path)

/-- A root that is written behind other components takes their place. -/
theorem ofNormal_append_root (before names : List Component) :
    ofNormal (before ++ .root :: names) = ofNormal (.root :: names) := by
  have hne : before ++ Component.root :: names ≠ [] := by simp
  rw [ofNormal, if_neg hne, ofNormal, if_neg (List.cons_ne_nil _ _), ofComponents, ofComponents,
    List.foldl_append, List.foldl_cons, List.foldl_cons]
  rfl

/-- The way to any path is a relative path. -/
theorem isAbsolute_relativeTo_eq_false (hroot : root.isAbsolute = true) :
    (p.relativeTo root).isAbsolute = false := by
  cases hp : p.isAbsolute with
  | true => exact isAbsolute_relativeTo p root hp hroot
  | false =>
    rw [relativeTo, hp, if_neg Bool.false_ne_true]
    exact isAbsolute_normalize_of_relative p hp

/-- The way to a relative path in normal form is the path itself. -/
theorem relativeTo_of_relative (hp : p.isAbsolute = false) (hnormal : p.normalize = p) :
    p.relativeTo root = p := by
  rw [relativeTo, hp, if_neg Bool.false_ne_true, hnormal]

/-- The way from a relative directory to a path is the normal form of the path. -/
theorem relativeTo_of_relative_root (hroot : root.isAbsolute = false) :
    p.relativeTo root = p.normalize := by
  cases hp : p.isAbsolute with
  | false => rw [relativeTo, hp, if_neg Bool.false_ne_true]
  | true =>
    obtain ⟨names, hnames, -⟩ := exists_names_of_isAbsolute p hp
    have hcomponents : p.normalize.components = .root :: names := by
      rw [components_normalize, hnames, if_neg (List.cons_ne_nil _ _)]
    have hhead : root.normalize.components.head? ≠ some .root := by
      rw [ne_eq, ← isAbsolute_iff_head_components, isAbsolute_normalize_of_relative root hroot]
      exact Bool.false_ne_true
    have hdrop : dropCommon p.normalize.components root.normalize.components =
        (.root :: names, root.normalize.components) := by
      rw [hcomponents]
      generalize root.normalize.components = left at hhead
      cases left with
      | nil => rfl
      | cons c left =>
        rw [dropCommon, if_neg fun h => hhead (congrArg some h.symm)]
    have hway : p.relativeTo root =
        ofNormal (root.normalize.components.map (fun _ => Component.parent) ++ .root :: names) := by
      rw [relativeTo, if_pos hp, hdrop]
    rw [hway, ofNormal_append_root, ← hnames, normalize]

/-- The way to any path is written from components in normal form. -/
theorem exists_ofNormal_relativeTo :
    ∃ components, IsNormal components ∧ p.relativeTo root = ofNormal components := by
  cases hroot : root.isAbsolute with
  | false => exact ⟨_, isNormal_normalizeComponents p, relativeTo_of_relative_root p root hroot⟩
  | true =>
    cases hp : p.isAbsolute with
    | true =>
      obtain ⟨back, names, hway, hnames, -⟩ := exists_relativeTo p root hp hroot
      exact ⟨_, isNormal_parents_names back names hnames, hway⟩
    | false =>
      refine ⟨normalizeComponents p.components, isNormal_normalizeComponents p, ?_⟩
      rw [relativeTo, hp, if_neg Bool.false_ne_true, normalize]

/-- The way to any path is in normal form. -/
theorem normalize_relativeTo : (p.relativeTo root).normalize = p.relativeTo root := by
  obtain ⟨components, hnormal, hway⟩ := p.exists_ofNormal_relativeTo root
  rw [hway, normalize, normalizeComponents_ofNormal components hnormal]

/-- The ways that are their own ways are the paths in normal form, absolute ones only when the root is
relative. -/
theorem relativeTo_eq_self_iff :
    p.relativeTo root = p ↔ p.normalize = p ∧ (p.isAbsolute = false ∨ root.isAbsolute = false) := by
  cases hroot : root.isAbsolute with
  | false => rw [relativeTo_of_relative_root p root hroot, and_iff_left (.inr rfl)]
  | true =>
    constructor
    · intro hself
      have hnormal := p.normalize_relativeTo root
      have hrelative := p.isAbsolute_relativeTo_eq_false root hroot
      rw [hself] at hnormal hrelative
      exact ⟨hnormal, .inl hrelative⟩
    · rintro ⟨hnormal, hp | hfalse⟩
      · exact p.relativeTo_of_relative root hp hnormal
      · cases hfalse

/-- The way to a way is the way itself. -/
theorem relativeTo_relativeTo : (p.relativeTo root).relativeTo root = p.relativeTo root := by
  cases hroot : root.isAbsolute with
  | false =>
    rw [relativeTo_of_relative_root _ root hroot, relativeTo_of_relative_root p root hroot,
      normalize_normalize]
  | true =>
    exact relativeTo_of_relative _ root (p.isAbsolute_relativeTo_eq_false root hroot)
      (p.normalize_relativeTo root)

/-- The way to a text's path is one. -/
theorem IsText.relativeTo {p : Path} (h : p.IsText) : (p.relativeTo root).IsText := by
  cases hroot : root.isAbsolute with
  | false =>
    rw [relativeTo_of_relative_root p root hroot]
    exact h.normalize
  | true =>
    cases hp : p.isAbsolute with
    | false =>
      rw [Path.relativeTo, hp, if_neg Bool.false_ne_true]
      exact h.normalize
    | true =>
      obtain ⟨back, names, hway, -, hsuffix, -⟩ := exists_relativeTo p root hp hroot
      rw [hway]
      apply isText_ofNormal
      intro c hc
      rcases List.mem_append.mp hc with hback | hname
      · obtain ⟨-, -, rfl⟩ := List.mem_map.mp hback
        rfl
      · exact h.clean_of_mem_normalizeComponents c (hsuffix.subset hname)

/-- What is read from the spelling of a path is the clean way to it. -/
theorem ofText_relativeSlash : ofText (p.relativeSlash root) = (p.relativeTo root).clean :=
  ofText_toSlash _

/-- A way that a text writes is read from the spelling. -/
theorem ofText_relativeSlash_of_isText (h : (p.relativeTo root).IsText) :
    ofText (p.relativeSlash root) = p.relativeTo root := by
  rw [ofText_relativeSlash, ← normalize_relativeTo p root]
  exact h.clean_normalize

/-- Paths are spelled alike exactly when the ways to them are the same, if texts write these ways. -/
theorem relativeSlash_eq_iff (q : Path) (hp : (p.relativeTo root).IsText)
    (hq : (q.relativeTo root).IsText) :
    p.relativeSlash root = q.relativeSlash root ↔ p.relativeTo root = q.relativeTo root := by
  constructor
  · intro h
    rw [← ofText_relativeSlash_of_isText p root hp, h, ofText_relativeSlash_of_isText q root hq]
  · intro h
    rw [relativeSlash, relativeSlash, h]

/-- A clean way is the way to itself. -/
theorem relativeTo_clean_relativeTo :
    (p.relativeTo root).clean.relativeTo root = (p.relativeTo root).clean := by
  obtain ⟨components, hnormal, hway⟩ := p.exists_ofNormal_relativeTo root
  have hclean := isNormal_map_clean components hnormal
  have hself := (relativeTo_eq_self_iff (p.relativeTo root) root).mp (relativeTo_relativeTo p root)
  rw [relativeTo_eq_self_iff, isAbsolute_clean]
  refine ⟨?_, hself.2⟩
  rw [hway, clean_ofNormal components hnormal, normalize, normalizeComponents_ofNormal _ hclean]

/-- The spelling of a spelling is the spelling itself. -/
theorem relativeSlash_relativeSlash :
    (ofText (p.relativeSlash root)).relativeSlash root = p.relativeSlash root := by
  rw [ofText_relativeSlash, relativeSlash, relativeTo_clean_relativeTo, relativeSlash, toSlash_eq_iff,
    components_clean, List.map_map]
  exact List.map_congr_left fun c _ => c.clean_clean

/-- The spelling under which a file is known, read from the root, leads to the file. -/
theorem resolve_relativeSlash (hp : p.isAbsolute = true) (hroot : root.isAbsolute = true)
    (h : (p.relativeTo root).IsText) :
    (ofText (p.relativeSlash root)).resolve root = p.normalize := by
  rw [ofText_relativeSlash_of_isText p root h, resolve_relativeTo p root hp hroot]

/-- No spelling is empty. -/
theorem relativeSlash_ne_empty : p.relativeSlash root ≠ "" := by
  intro hempty
  obtain ⟨components, hnormal, hway⟩ := p.exists_ofNormal_relativeTo root
  have hread : (p.relativeTo root).clean = empty := by
    rw [← ofText_relativeSlash, hempty]
    rfl
  have hnone := congrArg Path.components hread
  rw [components_clean, hway, components_ofNormal components hnormal] at hnone
  split at hnone
  · cases hnone
  · rename_i hsome
    exact hsome (List.map_eq_nil_iff.mp hnone)

end Ways

section Characters

variable (counts : Char → Bool)

/-- How many characters of a class components are shown with. -/
def countIn : List Component → Nat
  | [] => 0
  | c :: components => c.display.toList.countP counts + countIn components

/-- Components one after the other have the characters of both parts. -/
theorem countIn_append (first second : List Component) :
    countIn counts (first ++ second) = countIn counts first + countIn counts second := by
  induction first with
  | nil => rw [List.nil_append, countIn, Nat.zero_add]
  | cons c first ih => rw [List.cons_append, countIn, countIn, ih, Nat.add_assoc]

/-- The order of components does not count. -/
theorem countIn_reverse (components : List Component) :
    countIn counts components.reverse = countIn counts components := by
  induction components with
  | nil => rfl
  | cons c components ih =>
    rw [List.reverse_cons, countIn_append, ih, countIn, countIn, countIn, Nat.add_zero, Nat.add_comm]

variable (hslash : counts '/' = false) (hdot : counts '.' = false)

include hslash in
/-- Spelling components adds nothing but separators. -/
theorem countP_spell_le (components : List Component) :
    (spell components).toList.countP counts ≤ countIn counts components := by
  have hpush (base step : List Char) :
      (pushChars base step).countP counts ≤ base.countP counts + step.countP counts := by
    unfold pushChars
    split
    · exact Nat.le_add_left _ _
    · split
      · exact Nat.le_of_eq List.countP_append
      · refine Nat.le_of_eq ?_
        rw [List.countP_append, List.countP_cons_of_neg (by simp [hslash])]
  have hfold (out : List Char) :
      (components.foldl (fun out c => pushChars out c.display.toList) out).countP counts ≤
        out.countP counts + countIn counts components := by
    induction components generalizing out with
    | nil => exact Nat.le_add_right _ _
    | cons c components ih =>
      rw [List.foldl_cons, countIn, ← Nat.add_assoc]
      exact Nat.le_trans (ih _) (Nat.add_le_add_right (hpush out c.display.toList) _)
  rw [spell, String.toList_ofList]
  exact Nat.le_trans (hfold []) (Nat.le_of_eq (Nat.zero_add _))

include hdot in
/-- Parent steps are shown with dots alone. -/
theorem countIn_parents (back : List Component) :
    countIn counts (back.map fun _ => Component.parent) = 0 := by
  have hparent : Component.parent.display = ".." := by decide
  induction back with
  | nil => rfl
  | cons c back ih => simpa [countIn, hparent, hdot] using ih

include hdot in
/-- A normal form is read back with nothing more than a dot. -/
theorem countIn_components_ofNormal (components : List Component) (h : IsNormal components) :
    countIn counts (ofNormal components).components = countIn counts components := by
  have hcurrent : Component.current.display = "." := by decide
  rw [components_ofNormal components h]
  split
  · rename_i hnil
    simp [hnil, countIn, hcurrent, hdot]
  · rfl

include hslash hdot in
/-- The components of a text's path are shown with characters of the text. -/
theorem countIn_components_ofText_le (s : String) :
    countIn counts (ofText s).components ≤ s.toList.countP counts := by
  have hpieces (pieces : List (List Char)) :
      countIn counts ((pieces.filterMap innerComponent?).map Component.ofText) ≤
        pieces.flatten.countP counts := by
    induction pieces with
    | nil => exact Nat.le_refl 0
    | cons piece pieces ih =>
      have hpiece : ∀ c, innerComponent? piece = some c →
          c.octets.toList.countP counts ≤ piece.countP counts := by
        intro c hc
        unfold innerComponent? at hc
        split at hc
        · cases hc
        · split at hc
          · cases hc
          · split at hc
            · cases hc
              simp [Component.octets, hdot]
            · cases hc
              exact Nat.le_of_eq (congrArg (List.countP counts) String.toList_ofList)
      rw [List.flatten_cons, List.countP_append]
      cases hc : innerComponent? piece with
      | none =>
        rw [List.filterMap_cons_none hc]
        exact Nat.le_trans ih (Nat.le_add_left _ _)
      | some c =>
        rw [List.filterMap_cons_some hc, List.map_cons, countIn, c.display_ofText]
        exact Nat.add_le_add (hpiece c hc) ih
  have hleading : countIn counts ((leading s.toList).map Component.ofText) = 0 := by
    unfold leading
    split
    · simp [countIn, Component.display_ofText, Component.octets, hslash]
    · split
      · simp [countIn, Component.display_ofText, Component.octets, hdot]
      · rfl
  rw [components_ofText, componentsOf_eq, List.map_append, countIn_append, hleading, Nat.zero_add]
  refine Nat.le_trans (hpieces _) ?_
  rw [pieces, Text.flatten_splitAt]
  exact List.filter_sublist.countP_le

include hdot in
/-- Normalising components adds nothing but dots. -/
theorem countIn_normalizeComponents_le (components : List Component) :
    countIn counts (normalizeComponents components) ≤ countIn counts components := by
  have hpush (stack : List Component) (c : Component) :
      countIn counts (pushNormal stack c) ≤ countIn counts stack + c.display.toList.countP counts := by
    have hparent : Component.parent.display.toList.countP counts = 0 := by
      have hdots : Component.parent.display = ".." := by decide
      simp [hdots, hdot]
    unfold pushNormal
    split
    · exact Nat.le_add_right _ _
    · rw [hparent, Nat.add_zero]
      split
      · rw [countIn]
        exact Nat.le_add_left _ _
      · exact Nat.le_refl _
      · refine Nat.le_of_eq ?_
        rw [countIn, hparent, Nat.zero_add]
    · refine Nat.le_of_eq ?_
      rw [countIn, Nat.add_comm]
  have hfold (stack components : List Component) :
      countIn counts (components.foldl pushNormal stack) ≤
        countIn counts stack + countIn counts components := by
    induction components generalizing stack with
    | nil => exact Nat.le_add_right _ _
    | cons c components ih =>
      rw [List.foldl_cons, countIn]
      have hone := hpush stack c
      have hrest := ih (pushNormal stack c)
      omega
  rw [normalizeComponents, countIn_reverse]
  exact Nat.le_trans (hfold [] components) (Nat.le_of_eq (Nat.zero_add _))

include hdot in
/-- The way to a path is shown with characters that the normal form of the path is shown with. -/
theorem countIn_components_relativeTo_le (p root : Path) :
    countIn counts (p.relativeTo root).components ≤
      countIn counts (normalizeComponents p.components) := by
  have hnormal : countIn counts p.normalize.components ≤
      countIn counts (normalizeComponents p.components) :=
    Nat.le_of_eq (countIn_components_ofNormal counts hdot _ (isNormal_normalizeComponents p))
  cases hroot : root.isAbsolute with
  | false => rwa [relativeTo_of_relative_root p root hroot]
  | true =>
    cases hp : p.isAbsolute with
    | false => rwa [relativeTo, hp, if_neg Bool.false_ne_true]
    | true =>
      obtain ⟨back, names, hway, hnames, ⟨start, hsuffix⟩, -⟩ := exists_relativeTo p root hp hroot
      rw [hway, countIn_components_ofNormal counts hdot _ (isNormal_parents_names back names hnames),
        countIn_append, countIn_parents counts hdot, ← hsuffix, countIn_append, Nat.zero_add]
      exact Nat.le_add_left _ _

include hslash hdot in
/-- The spelling of a text's path has no more characters of a class than the text, separators and dots
apart. -/
theorem countP_relativeSlash_le (s : String) (root : Path) :
    ((ofText s).relativeSlash root).toList.countP counts ≤ s.toList.countP counts :=
  calc ((ofText s).relativeSlash root).toList.countP counts
      ≤ countIn counts ((ofText s).relativeTo root).components := countP_spell_le counts hslash _
    _ ≤ countIn counts (normalizeComponents (ofText s).components) :=
      countIn_components_relativeTo_le counts hdot _ root
    _ ≤ countIn counts (ofText s).components := countIn_normalizeComponents_le counts hdot _
    _ ≤ s.toList.countP counts := countIn_components_ofText_le counts hslash hdot s

/-- A character of the spelling of a text's path that is no separator and no dot stands in the text. -/
theorem mem_of_mem_relativeSlash (c : Char) (hslash : c ≠ '/') (hdot : c ≠ '.') (s : String)
    (root : Path) (hc : c ∈ ((ofText s).relativeSlash root).toList) : c ∈ s.toList := by
  have hle := countP_relativeSlash_le (· == c) (by simpa using hslash.symm) (by simpa using hdot.symm)
    s root
  exact List.count_pos_iff.mp (Nat.lt_of_lt_of_le (List.count_pos_iff.mpr hc) hle)

end Characters

/-- Different paths in normal form have one way only when one of them is relative and is the way to the
other. -/
theorem relativeTo_eq_iff_of_normal (p q root : Path) (hroot : root.isAbsolute = true)
    (hp : p.normalize = p) (hq : q.normalize = q) :
    p.relativeTo root = q.relativeTo root ↔
      p = q ∨ (p.isAbsolute = true ∧ q = p.relativeTo root) ∨
        (q.isAbsolute = true ∧ p = q.relativeTo root) := by
  have hway (r s : Path) (hr : r.isAbsolute = true) (hs : s.isAbsolute = true) :
      s ≠ r.relativeTo root := by
    rintro rfl
    rw [isAbsolute_relativeTo r root hr hroot] at hs
    cases hs
  cases hpa : p.isAbsolute with
  | true =>
    cases hqa : q.isAbsolute with
    | true =>
      rw [relativeTo_eq_iff p q root hpa hqa hroot, hp, hq]
      simp only [hway p q hpa hqa, hway q p hqa hpa, and_false, or_false]
    | false =>
      rw [q.relativeTo_of_relative root hqa hq]
      have hne : p ≠ q := by
        rintro rfl
        exact Bool.noConfusion (hpa.symm.trans hqa)
      simp only [hne, false_or, true_and, Bool.false_eq_true, false_and, or_false]
      exact eq_comm
  | false =>
    cases hqa : q.isAbsolute with
    | true =>
      rw [p.relativeTo_of_relative root hpa hp]
      have hne : p ≠ q := by
        rintro rfl
        exact Bool.noConfusion (hpa.symm.trans hqa)
      simp only [hne, false_or, true_and, Bool.false_eq_true, false_and]
    | false =>
      rw [p.relativeTo_of_relative root hpa hp, q.relativeTo_of_relative root hqa hq]
      simp only [Bool.false_eq_true, false_and, or_false]

end Path

end UnityBuild
