import UnityBuild.Proofs.Path.Spelling

/-!
# Ways that turn back

A relative path that is read from a directory climbs by parent steps and then goes on by names. It is
the shortest way to what it leads to unless it turns back: it climbs above the root of the file
system, or it enters again the directory that it left last. Normalising sees the path alone and does not
shorten such a way. So a path that turns back has another way than the file that it leads to, and this
is the only way in which the two can differ.

Main statements: `relativeTo_resolve_eq_iff` and `relativeTo_eq_iff_resolve`.
-/

namespace UnityBuild.Path

/-- How many directories a way climbs before it goes on. -/
def climbs (way : List Component) : Nat :=
  (way.takeWhile (· == .parent)).length

/-- Whether a relative path that is read from a directory climbs above the root of the file system,
or enters again the directory that it left last. -/
def turnsBack (p directory : Path) : Bool :=
  let way := normalizeComponents p.components
  let left := normalizeComponents directory.components
  !p.isAbsolute && climbs way != 0 &&
    (decide (left.length ≤ climbs way) ||
      (way.drop (climbs way)).head? == left[left.length - climbs way]?)

section Stacks

/-- Pushing the normal form of some steps on a stack comes to the same as pushing the steps. -/
theorem foldl_pushNormal_reverse_foldl (base stack steps : List Component)
    (hstack : .root ∉ stack) (hsteps : .root ∉ steps) :
    (steps.foldl pushNormal stack).reverse.foldl pushNormal base =
      steps.foldl pushNormal (stack.reverse.foldl pushNormal base) := by
  induction steps generalizing stack with
  | nil => rfl
  | cons c steps ih =>
    obtain ⟨hc, hrest⟩ := not_or.mp (mt List.mem_cons.mpr hsteps)
    have hpush : .root ∉ pushNormal stack c ∧
        (pushNormal stack c).reverse.foldl pushNormal base =
          pushNormal (stack.reverse.foldl pushNormal base) c := by
      cases c with
      | root => exact absurd rfl hc
      | current => exact ⟨hstack, rfl⟩
      | normal name => simp [pushNormal, hstack, List.foldl_append]
      | parent =>
        match stack with
        | [] => simp [pushNormal]
        | .root :: below => exact absurd List.mem_cons_self hstack
        | .normal name :: below =>
          exact ⟨fun h => hstack (List.mem_cons_of_mem _ h), by simp [pushNormal, List.foldl_append]⟩
        | .current :: below => simpa [pushNormal, List.foldl_append] using hstack
        | .parent :: below => simpa [pushNormal, List.foldl_append] using hstack
    rw [List.foldl_cons, List.foldl_cons, ih _ hpush.1 hrest, hpush.2]

/-- Parent steps take names off a stack until only the root is left. -/
theorem foldl_pushNormal_replicate (count : Nat) (names : List Component) (hnames : AreNames names) :
    (List.replicate count Component.parent).foldl pushNormal (names ++ [.root]) =
      names.drop count ++ [.root] := by
  induction count generalizing names with
  | zero => rfl
  | succ count ih =>
    rw [List.replicate_succ, List.foldl_cons]
    cases names with
    | nil =>
      have hroot := ih [] hnames
      rwa [List.drop_nil] at hroot ⊢
    | cons c names =>
      obtain ⟨name, rfl, -⟩ := hnames c List.mem_cons_self
      exact ih names hnames.of_cons

/-- A normal stack has names above the root or above parent steps. -/
theorem exists_names_of_normalStack (stack : List Component) (h : NormalStack stack) :
    ∃ names base, stack = names ++ base ∧ AreNames names ∧
      (base = [.root] ∨ ∃ count, base = List.replicate count .parent) := by
  induction stack with
  | nil => exact ⟨[], [], rfl, .nil, .inr ⟨0, rfl⟩⟩
  | cons top below ih =>
    cases top with
    | root =>
      have hbelow : below = [] := h
      exact ⟨[], [.root], by rw [hbelow]; rfl, .nil, .inl rfl⟩
    | current => exact h.elim
    | parent =>
      have hbelow : below = List.replicate below.length .parent := List.eq_replicate_of_mem h
      refine ⟨[], .parent :: below, rfl, .nil, .inr ?_⟩
      exact ⟨below.length + 1, by rw [List.replicate_succ, ← hbelow]⟩
    | normal name =>
      obtain ⟨names, base, rfl, hnames, hbase⟩ := ih h.2
      exact ⟨.normal name :: names, base, rfl, .cons h.1 hnames, hbase⟩

end Stacks

section Ways

/-- The root is no component of a relative path. -/
theorem root_notMem_components (p : Path) (hp : p.isAbsolute = false) : .root ∉ p.components := by
  rw [components, componentsOf_eq, leading, if_neg ((isAbsolute_eq_false_iff p).mp hp)]
  intro hmem
  rcases List.mem_append.mp hmem with hleading | hinner
  · split at hleading
    · cases List.mem_singleton.mp hleading
    · cases hleading
  · exact isStep_of_mem_innerComponents _ _ hinner

/-- The normal form of a relative path climbs and then goes on by names. -/
theorem exists_climb_of_relative (p : Path) (hp : p.isAbsolute = false) :
    ∃ count names, normalizeComponents p.components = List.replicate count .parent ++ names ∧
      AreNames names := by
  obtain ⟨names, base, hstack, hnames, hbase⟩ :=
    exists_names_of_normalStack _ (isNormal_normalizeComponents p)
  have hcomponents : normalizeComponents p.components = base.reverse ++ names.reverse := by
    rw [← List.reverse_append, ← hstack, List.reverse_reverse]
  rcases hbase with rfl | ⟨count, rfl⟩
  · have habsolute : p.normalize.isAbsolute = true := by
      rw [isAbsolute_iff_head_components, components_normalize, hcomponents]
      rfl
    rw [isAbsolute_normalize_of_relative p hp] at habsolute
    cases habsolute
  · rw [List.reverse_replicate] at hcomponents
    exact ⟨count, names.reverse, hcomponents, hnames.reverse⟩

/-- Names behind parent steps begin where the climb ends. -/
theorem climbs_replicate_append (count : Nat) (names : List Component) (hnames : AreNames names) :
    climbs (List.replicate count .parent ++ names) = count := by
  have hstop : names.takeWhile (· == Component.parent) = [] := by
    cases names with
    | nil => rfl
    | cons c names =>
      obtain ⟨name, rfl, -⟩ := hnames c List.mem_cons_self
      rfl
  have hclimb : (List.replicate count Component.parent).takeWhile (· == Component.parent) =
      List.replicate count .parent := by
    rw [List.takeWhile_replicate, if_pos (by decide)]
  rw [climbs, List.takeWhile_append, hclimb, if_pos rfl, hstop, List.append_nil,
    List.length_replicate]

/-- Following a relative path is following its normal form. -/
theorem normalizeComponents_join_normal (directory p : Path) (hp : p.isAbsolute = false) :
    normalizeComponents (directory.join p).components =
      normalizeComponents (directory.components ++ normalizeComponents p.components) := by
  have hroot := root_notMem_components p hp
  rw [normalizeComponents_join directory p hp, normalizeComponents, normalizeComponents,
    List.foldl_append, List.foldl_append, normalizeComponents,
    foldl_pushNormal_reverse_foldl _ [] _ List.not_mem_nil hroot]
  rfl

/-- A normalised path leads where the path leads. -/
theorem resolve_normalize (p directory : Path) : p.normalize.resolve directory = p.resolve directory := by
  cases hp : p.isAbsolute with
  | true =>
    rw [resolve, resolve, if_pos (isAbsolute_normalize p hp), if_pos hp, normalize_normalize]
  | false =>
    have hnormal := isAbsolute_normalize_of_relative p hp
    rw [resolve, resolve, hnormal, hp, if_neg Bool.false_ne_true, if_neg Bool.false_ne_true,
      normalize_eq_iff, normalizeComponents_join_normal _ _ hnormal,
      normalizeComponents_join_normal _ _ hp, normalizeComponents_normalize]

/-- A start that two lists share is dropped. -/
theorem dropCommon_append (start as bs : List Component) :
    dropCommon (start ++ as) (start ++ bs) = dropCommon as bs := by
  induction start with
  | nil => rfl
  | cons c start ih => rw [List.cons_append, List.cons_append, dropCommon, if_pos rfl, ih]

/-- Nothing of the second list is dropped exactly when it is empty or begins differently. -/
theorem length_dropCommon_eq_iff (as bs : List Component) :
    (dropCommon as bs).2.length = bs.length ↔ bs = [] ∨ as.head? ≠ bs.head? := by
  cases as with
  | nil => cases bs <;> simp [dropCommon]
  | cons a as =>
    cases bs with
    | nil => simp [dropCommon]
    | cons b bs =>
      by_cases hab : a = b
      · subst hab
        obtain ⟨start, -, hbs⟩ := exists_dropCommon as bs
        have hlength := congrArg List.length hbs
        rw [List.length_append] at hlength
        have hshort : (dropCommon as bs).2.length ≠ bs.length + 1 := by omega
        simp [dropCommon, hshort]
      · simp [dropCommon, hab]

/-- Parent steps with names behind them can be told from each other by both parts. -/
theorem parents_names_inj (count count' : Nat) (names names' : List Component)
    (hnames : AreNames names) (hnames' : AreNames names') :
    List.replicate count Component.parent ++ names = List.replicate count' .parent ++ names' ↔
      count = count' ∧ names = names' := by
  constructor
  · intro h
    have hcount := congrArg climbs h
    rw [climbs_replicate_append count names hnames, climbs_replicate_append count' names' hnames']
      at hcount
    subst hcount
    exact ⟨rfl, List.append_cancel_left h⟩
  · rintro ⟨rfl, rfl⟩
    rfl

/-- Following parent steps and names from a directory takes as many names off the directory and
appends the others. -/
theorem components_resolve_parents_names (p directory : Path) (count : Nat)
    (names left : List Component) (hp : p.isAbsolute = false)
    (hway : normalizeComponents p.components = List.replicate count .parent ++ names)
    (hnames : AreNames names)
    (hdirectory : normalizeComponents directory.components = .root :: left)
    (hleft : AreNames left) :
    (p.resolve directory).components = .root :: (left.take (left.length - count) ++ names) := by
  have hstack : directory.components.foldl pushNormal [] = left.reverse ++ [.root] := by
    rw [← List.reverse_cons, ← hdirectory, normalizeComponents, List.reverse_reverse]
  have hcomponents : normalizeComponents (directory.join p).components =
      .root :: (left.take (left.length - count) ++ names) := by
    rw [normalizeComponents_join_normal directory p hp, hway, normalizeComponents, List.foldl_append,
      List.foldl_append, hstack, foldl_pushNormal_replicate count _ hleft.reverse,
      foldl_pushNormal_names names _ hnames, List.drop_reverse]
    simp
  rw [resolve, hp, if_neg Bool.false_ne_true, components_normalize, hcomponents,
    if_neg (List.cons_ne_nil _ _)]

/-- A relative path turns back when it climbs further than the directory is deep, or climbs and then
enters again what it left last. -/
theorem turnsBack_eq_false_iff (p directory : Path) (count : Nat) (names left : List Component)
    (hp : p.isAbsolute = false)
    (hway : normalizeComponents p.components = List.replicate count .parent ++ names)
    (hnames : AreNames names)
    (hdirectory : normalizeComponents directory.components = .root :: left) :
    p.turnsBack directory = false ↔
      count ≤ left.length ∧ (left.drop (left.length - count) = [] ∨
        names.head? ≠ (left.drop (left.length - count)).head?) := by
  have hclimbs := climbs_replicate_append count names hnames
  have hbehind : (List.replicate count Component.parent ++ names).drop count = names := by
    rw [List.drop_left' List.length_replicate]
  simp only [turnsBack, hp, hway, hdirectory, hclimbs, hbehind, List.length_cons, Bool.not_false,
    Bool.true_and, Bool.and_eq_false_iff, Bool.or_eq_false_iff, decide_eq_false_iff_not,
    bne_eq_false_iff_eq, beq_eq_false_iff_ne]
  cases count with
  | zero => simp
  | succ count =>
    have hplace (hdeep : count + 1 ≤ left.length) :
        (Component.root :: left)[left.length + 1 - (count + 1)]? =
          (left.drop (left.length - (count + 1))).head? := by
      have hindex : left.length + 1 - (count + 1) = left.length - (count + 1) + 1 := by omega
      rw [hindex, List.getElem?_cons_succ, List.head?_drop]
    have hnonempty (hdeep : count + 1 ≤ left.length) : left.drop (left.length - (count + 1)) ≠ [] := by
      rw [ne_eq, List.drop_eq_nil_iff]
      omega
    constructor
    · rintro (hzero | ⟨hdeep, hother⟩)
      · cases hzero
      · have hdeep' : count + 1 ≤ left.length := by omega
        rw [hplace hdeep'] at hother
        exact ⟨hdeep', .inr hother⟩
    · rintro ⟨hdeep, hnone | hother⟩
      · exact absurd hnone (hnonempty hdeep)
      · refine .inr ⟨by omega, ?_⟩
        rwa [hplace hdeep]

/-- Parent steps with names behind them spell a normal form only when it has as many parent steps and
the same names. -/
theorem ofNormal_parents_names_eq_iff (p : Path) (back only names : List Component) (count : Nat)
    (hway : normalizeComponents p.components = List.replicate count .parent ++ names)
    (honly : AreNames only) (hnames : AreNames names) :
    ofNormal (back.map (fun _ => Component.parent) ++ only) = p.normalize ↔
      back.length = count ∧ only = names := by
  have hnormal := isNormal_parents_names back only honly
  rw [← parents_names_inj _ count only names honly hnames, ← hway, ← List.map_const']
  constructor
  · intro h
    have hread := congrArg (fun q : Path => normalizeComponents q.components) h
    rwa [normalizeComponents_ofNormal _ hnormal, normalizeComponents_normalize] at hread
  · intro h
    rw [h, normalize]

/-- The way from a directory to what a relative path leads to: of the names of the path and those that it
leaves, what both begin with is dropped. -/
theorem relativeTo_resolve (p directory : Path) (count : Nat) (names left : List Component)
    (hp : p.isAbsolute = false) (hdirectory : directory.isAbsolute = true)
    (hway : normalizeComponents p.components = List.replicate count .parent ++ names)
    (hnames : AreNames names)
    (hcomponents : normalizeComponents directory.components = .root :: left) (hleft : AreNames left) :
    (p.resolve directory).relativeTo directory =
      ofNormal ((dropCommon names (left.drop (left.length - count))).2.map (fun _ => .parent) ++
        (dropCommon names (left.drop (left.length - count))).1) := by
  have hresolve := components_resolve_parents_names p directory count names left hp hway hnames
    hcomponents hleft
  -- The common start of both is the part of the directory that the way does not leave.
  have hcommon : dropCommon (p.resolve directory).components directory.normalize.components =
      dropCommon names (left.drop (left.length - count)) := by
    have hsplit : directory.normalize.components = .root :: left.take (left.length - count) ++
        left.drop (left.length - count) := by
      rw [components_normalize, hcomponents, if_neg (List.cons_ne_nil _ _), List.cons_append,
        List.take_append_drop]
    rw [hresolve, hsplit, ← List.cons_append, dropCommon_append]
  rw [relativeTo, if_pos (isAbsolute_resolve p directory hdirectory), normalize_resolve, hcommon]

/-- A relative path is the way to what it leads to exactly when it does not turn back. -/
theorem relativeTo_resolve_eq_iff (p directory : Path) (hp : p.isAbsolute = false)
    (hdirectory : directory.isAbsolute = true) :
    (p.resolve directory).relativeTo directory = p.normalize ↔ p.turnsBack directory = false := by
  obtain ⟨count, names, hway, hnames⟩ := exists_climb_of_relative p hp
  obtain ⟨left, hcomponents, hleft⟩ := exists_names_of_isAbsolute directory hdirectory
  have hwritten := relativeTo_resolve p directory count names left hp hdirectory hway hnames
    hcomponents hleft
  have hlength : (left.drop (left.length - count)).length = min count left.length := by
    rw [List.length_drop]
    omega
  rw [turnsBack_eq_false_iff p directory count names left hp hway hnames hcomponents,
    ← length_dropCommon_eq_iff, hlength]
  obtain ⟨start, hstart, hrest⟩ := exists_dropCommon names (left.drop (left.length - count))
  generalize dropCommon names (left.drop (left.length - count)) = dropped at hwritten hstart hrest ⊢
  obtain ⟨only, back⟩ := dropped
  have honly : AreNames only := (hstart ▸ hnames).of_append_right
  rw [hwritten, ofNormal_parents_names_eq_iff p back only names count hway honly hnames]
  have hshort := congrArg List.length hrest
  rw [List.length_append, hlength] at hshort
  dsimp only at hshort hstart ⊢
  constructor
  · rintro ⟨hcount, -⟩
    omega
  · rintro ⟨hdeep, hcount⟩
    have hnone : start = [] := List.length_eq_zero_iff.mp (by omega)
    refine ⟨by omega, ?_⟩
    rw [hnone, List.nil_append] at hstart
    exact hstart.symm

/-- The way from a directory to what a text's path leads to is a text's path: nothing of the directory
is in it. -/
theorem IsText.relativeTo_resolve {p : Path} (h : p.IsText) (directory : Path)
    (hdirectory : directory.isAbsolute = true) :
    ((p.resolve directory).relativeTo directory).IsText := by
  cases hp : p.isAbsolute with
  | true =>
    rw [Path.resolve, if_pos hp]
    exact h.normalize.relativeTo directory
  | false =>
    obtain ⟨count, names, hway, hnames⟩ := exists_climb_of_relative p hp
    obtain ⟨left, hcomponents, hleft⟩ := exists_names_of_isAbsolute directory hdirectory
    rw [Path.relativeTo_resolve p directory count names left hp hdirectory hway hnames hcomponents hleft]
    obtain ⟨start, hstart, -⟩ := exists_dropCommon names (left.drop (left.length - count))
    apply isText_ofNormal
    intro c hc
    rcases List.mem_append.mp hc with hback | honly
    · obtain ⟨-, -, rfl⟩ := List.mem_map.mp hback
      rfl
    · apply h.clean_of_mem_normalizeComponents
      rw [hway, hstart]
      exact List.mem_append_right _ (List.mem_append_right _ honly)

/-- A path has the way of a file exactly when it leads to the file and does not turn back. -/
theorem relativeTo_eq_iff_resolve (p file root : Path) (hroot : root.isAbsolute = true)
    (hfile : file.isAbsolute = true) (hnormal : file.normalize = file) :
    p.relativeTo root = file.relativeTo root ↔
      p.resolve root = file ∧ p.turnsBack root = false := by
  cases hp : p.isAbsolute with
  | true =>
    have hstraight : p.turnsBack root = false := by
      rw [turnsBack, hp]
      rfl
    rw [relativeTo_eq_iff p file root hp hfile hroot, hnormal, resolve, if_pos hp, hstraight]
    simp only [and_true]
  | false =>
    rw [relativeTo, hp, if_neg Bool.false_ne_true, ← relativeTo_resolve_eq_iff p root hp hroot]
    constructor
    · intro h
      have hleads : p.resolve root = file := by
        rw [← resolve_normalize, h, resolve_relativeTo file root hfile hroot, hnormal]
      exact ⟨hleads, by rw [hleads, h]⟩
    · rintro ⟨rfl, hway⟩
      exact hway.symm

end Ways

end UnityBuild.Path
