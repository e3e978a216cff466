import UnityBuild.Proofs.Path.Detours

/-!
# The way climbs to what the paths share

Two absolute paths share a longest start. The way from the second to the first climbs one step for each
component of the second behind that start and goes on by the components of the first behind it. It is a
relative path in normal form, it leads back to the first path, and so it tells two paths apart exactly
when they have different normal forms, whatever their spelling. The text of a way tells less when a path
is not UTF-8: it tells apart ways with different clean components.

Main statements: `climbs_relativeTo` and `relativeTo_leads_back`.
-/

namespace UnityBuild.Path

section Starts

/-- The longest start that two lists of components share: any other shared start starts it. -/
def IsLongestCommonStart (start as bs : List Component) : Prop :=
  start <+: as ∧ start <+: bs ∧ ∀ other, other <+: as → other <+: bs → other <+: start

/-- Lists that do not begin alike share nothing. -/
theorem isLongestCommonStart_nil (as bs : List Component)
    (h : ∀ c as' bs', as = c :: as' → bs = c :: bs' → False) : IsLongestCommonStart [] as bs := by
  refine ⟨List.nil_prefix, List.nil_prefix, ?_⟩
  rintro other ⟨as', rfl⟩ ⟨bs', rfl⟩
  cases other with
  | nil => exact List.prefix_refl []
  | cons c other => exact (h c (other ++ as') (other ++ bs') rfl rfl).elim

/-- A common first component belongs to what two lists share. -/
theorem IsLongestCommonStart.cons {start as bs : List Component} (c : Component)
    (h : IsLongestCommonStart start as bs) : IsLongestCommonStart (c :: start) (c :: as) (c :: bs) := by
  obtain ⟨has, hbs, hlongest⟩ := h
  refine ⟨List.cons_prefix_cons.mpr ⟨rfl, has⟩, List.cons_prefix_cons.mpr ⟨rfl, hbs⟩, ?_⟩
  intro other hother hother'
  cases other with
  | nil => exact List.nil_prefix
  | cons d other =>
    obtain ⟨rfl, hrest⟩ := List.cons_prefix_cons.mp hother
    obtain ⟨-, hrest'⟩ := List.cons_prefix_cons.mp hother'
    exact List.cons_prefix_cons.mpr ⟨rfl, hlongest other hrest hrest'⟩

/-- What is removed from two lists is the longest start that they share. -/
theorem exists_longestCommonStart (as bs : List Component) :
    ∃ start, IsLongestCommonStart start as bs ∧ as = start ++ (dropCommon as bs).1 ∧
      bs = start ++ (dropCommon as bs).2 := by
  fun_induction dropCommon as bs with
  | case1 as c bs ih =>
    obtain ⟨start, hstart, has, hbs⟩ := ih
    exact ⟨c :: start, hstart.cons c, congrArg (c :: ·) has, congrArg (c :: ·) hbs⟩
  | case2 a as b bs hne =>
    refine ⟨[], isLongestCommonStart_nil _ _ ?_, rfl, rfl⟩
    intro c as' bs' has hbs
    exact hne ((List.cons.inj has).1.trans (List.cons.inj hbs).1.symm)
  | case3 as bs hempty =>
    refine ⟨[], isLongestCommonStart_nil _ _ ?_, rfl, rfl⟩
    exact fun c as' bs' has hbs => hempty c as' c bs' has hbs

end Starts

section Ways

variable (p q base : Path)

/-- The way to a path climbs one step for each component of the directory that the two paths do not
share. -/
theorem climbs_relativeTo (hp : p.isAbsolute = true) (hbase : base.isAbsolute = true) :
    ∃ start, IsLongestCommonStart start p.normalize.components base.normalize.components ∧
      base.normalize.components.length = start.length + climbs (p.relativeTo base).components := by
  obtain ⟨ps, hps, hnames⟩ := exists_names_of_isAbsolute p hp
  obtain ⟨bs, hbs, -⟩ := exists_names_of_isAbsolute base hbase
  have hpath : p.normalize.components = .root :: ps := by
    rw [components_normalize, hps, if_neg (List.cons_ne_nil _ _)]
  have hdirectory : base.normalize.components = .root :: bs := by
    rw [components_normalize, hbs, if_neg (List.cons_ne_nil _ _)]
  have hcommon : dropCommon p.normalize.components base.normalize.components = dropCommon ps bs := by
    rw [hpath, hdirectory, dropCommon, if_pos rfl]
  obtain ⟨start, hstart, honly, hback⟩ := exists_longestCommonStart ps bs
  generalize dropCommon ps bs = dropped at hcommon honly hback
  obtain ⟨only, back⟩ := dropped
  dsimp only at honly hback
  have hsteps : AreNames only := (honly ▸ hnames).of_append_right
  have hclimbs : climbs (p.relativeTo base).components = back.length := by
    have hway : p.relativeTo base = ofNormal (back.map (fun _ => Component.parent) ++ only) := by
      rw [relativeTo, if_pos hp, hcommon]
    rw [hway, components_ofNormal _ (isNormal_parents_names back only hsteps)]
    split
    · -- A way between equal paths stays in place.
      rename_i hnone
      rw [List.map_eq_nil_iff.mp (List.append_eq_nil_iff.mp hnone).1]
      rfl
    · rw [List.map_const', climbs_replicate_append _ only hsteps]
  refine ⟨.root :: start, ?_, ?_⟩
  · rw [hpath, hdirectory]
    exact hstart.cons .root
  · rw [hdirectory, hback, hclimbs, List.length_cons, List.length_append, List.length_cons]
    omega

/-- The way from a directory to a path is a relative path in normal form that climbs one step for each
component of the directory that the two paths do not share. Read from the directory it leads to the
path, and two paths have the same way exactly when they have the same normal form. With single
separators the ways are the same text exactly when they have the same clean components, and for ways
that texts write, exactly when the paths have the same normal form. -/
theorem relativeTo_leads_back (hp : p.isAbsolute = true) (hq : q.isAbsolute = true)
    (hbase : base.isAbsolute = true) :
    (p.relativeTo base).isAbsolute = false ∧
      (p.relativeTo base).normalize = p.relativeTo base ∧
      (∃ start, IsLongestCommonStart start p.normalize.components base.normalize.components ∧
        base.normalize.components.length =
          start.length + climbs (p.relativeTo base).components) ∧
      (p.relativeTo base).resolve base = p.normalize ∧
      (p.relativeTo base = q.relativeTo base ↔ p.normalize = q.normalize) ∧
      ((p.relativeTo base).toSlash = (q.relativeTo base).toSlash ↔
        (p.relativeTo base).components.map Component.clean =
          (q.relativeTo base).components.map Component.clean) ∧
      ((p.relativeTo base).IsText → (q.relativeTo base).IsText →
        ((p.relativeTo base).toSlash = (q.relativeTo base).toSlash ↔ p.normalize = q.normalize)) := by
  have hsame := relativeTo_eq_iff p q base hp hq hbase
  exact ⟨isAbsolute_relativeTo p base hp hbase, normalize_relativeTo p base,
    climbs_relativeTo p base hp hbase, resolve_relativeTo p base hp hbase, hsame,
    toSlash_eq_iff _ _, fun htext htext' => (relativeSlash_eq_iff p base q htext htext').trans hsame⟩

/-- Two spellings of a file have the same way from a directory beside it, also as a text. -/
theorem relativeTo_leads_back_detour :
    let p : Path := ⟨"/proj/src/../a.c"⟩
    let q : Path := ⟨"/../proj/./a.c"⟩
    let base : Path := ⟨"/proj//lib/x/"⟩
    p.isAbsolute = true ∧ q.isAbsolute = true ∧ base.isAbsolute = true ∧
      (p.relativeTo base).octets = "../../a.c" ∧ (p.relativeTo base).IsText ∧
      (q.relativeTo base).IsText ∧ (p.relativeTo base).toSlash = (q.relativeTo base).toSlash := by
  intro p q base
  have htext : (p.relativeTo base).IsText := ⟨"../../a.c", by decide +kernel⟩
  have htext' : (q.relativeTo base).IsText := ⟨"../../a.c", by decide +kernel⟩
  obtain ⟨-, -, -, -, -, -, hsame⟩ :=
    relativeTo_leads_back p q base (by decide) (by decide) (by decide)
  exact ⟨by decide, by decide, by decide, by decide +kernel, htext, htext',
    (hsame htext htext').mpr (by decide +kernel)⟩

/-- Two files whose names differ in bytes that are not UTF-8 have different ways that are the same text
with single separators. -/
theorem ways_of_different_files_have_one_text :
    let p : Path := ⟨"/p/\xff.c"⟩
    let q : Path := ⟨"/p/\xfe.c"⟩
    let base : Path := ⟨"/p"⟩
    p.isAbsolute = true ∧ q.isAbsolute = true ∧ base.isAbsolute = true ∧
      p.normalize ≠ q.normalize ∧ p.relativeTo base ≠ q.relativeTo base ∧
      (p.relativeTo base).toSlash = "\uFFFD.c" ∧ (q.relativeTo base).toSlash = "\uFFFD.c" := by
  decide +kernel

end Ways

end UnityBuild.Path
