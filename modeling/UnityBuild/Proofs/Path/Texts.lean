import UnityBuild.Proofs.Path.NormalForm
import UnityBuild.Proofs.Text.Octets

/-!
# Paths and the texts that show them

Every text writes a path, and the path is shown as this text. Any other path is shown with a loss, and
what is read from the text that shows it is a path of clean components: each of them is text, and is
shown as the component in its place. Cleaning takes no separator and no dot for anything else, so it
keeps how many components there are and which of them are names.

Main statements: `ofText_toSlash`, `components_clean`, `toSlash_eq_iff` and `IsText.clean_eq`.
-/

namespace UnityBuild.Path

/-- A path that some text writes. -/
def IsText (p : Path) : Prop :=
  ∃ s, p = .ofText s

namespace Component

/-- The component that is read from the text that shows a component. -/
def clean : Component → Component
  | normal name => .normal (Text.toOctets (Text.ofOctets name))
  | component => component

/-- The component of a text's path that stands where the text has a component. -/
def ofText : Component → Component
  | normal name => .normal (Text.toOctets name)
  | component => component

/-- A clean component is written as the text that shows the component. -/
theorem octets_clean (c : Component) : c.clean.octets = Text.toOctets c.display := by
  cases c with
  | root => decide
  | current => decide
  | parent => decide
  | normal name => rfl

/-- What is clean stays as it is. -/
theorem clean_clean (c : Component) : c.clean.clean = c.clean := by
  cases c with
  | root => rfl
  | current => rfl
  | parent => rfl
  | normal name => rw [clean, clean, Text.ofOctets_toOctets]

/-- A component of a text's path is clean. -/
theorem clean_ofText (c : Component) : c.ofText.clean = c.ofText := by
  cases c with
  | root => rfl
  | current => rfl
  | parent => rfl
  | normal name => rw [ofText, clean, Text.ofOctets_toOctets]

/-- A component of a text's path is shown as the text has it. -/
theorem display_ofText (c : Component) : c.ofText.display = c.octets := by
  cases c with
  | root => decide
  | current => decide
  | parent => decide
  | normal name => exact Text.ofOctets_toOctets name

end Component

/-- A change of texts that keeps separators and leads only ASCII texts to themselves keeps the names of
files. -/
theorem IsFileName.of_keepsAscii {name : String} (h : IsFileName name) (change : String → String)
    (hkept : ∀ short : String, short.toList.all Text.isAscii = true → change name = short → name = short)
    (hslash : '/' ∈ (change name).toList ↔ '/' ∈ name.toList) : IsFileName (change name) := by
  have hother (short : String) (hshort : short.toList.all Text.isAscii = true)
      (hname : name.toList ≠ short.toList) : (change name).toList ≠ short.toList := fun heq =>
    hname (congrArg String.toList (hkept short hshort (String.toList_inj.mp heq)))
  obtain ⟨hnil, hnone, hdot, hdots⟩ := h
  exact ⟨hother "" rfl hnil, mt hslash.mp hnone, hother "." rfl hdot, hother ".." rfl hdots⟩

/-- The name of a file is written as one. -/
theorem isFileName_toOctets (name : String) (h : IsFileName name) : IsFileName (Text.toOctets name) := by
  refine h.of_keepsAscii Text.toOctets ?_ (Text.mem_toOctets_iff '/' (by decide) name)
  intro short hshort heq
  rw [← Text.toOctets_of_isAscii short (List.all_eq_true.mp hshort)] at heq
  exact Text.toOctets_injective heq

/-- The name of a file is shown as one. -/
theorem isFileName_ofOctets (name : String) (h : IsFileName name) : IsFileName (Text.ofOctets name) :=
  h.of_keepsAscii Text.ofOctets
    (fun short hshort => Text.eq_of_ofOctets_eq name short (List.all_eq_true.mp hshort))
    (Text.mem_ofOctets_iff '/' (by decide) name)

/-- A name stays the name of a file when it is cleaned. -/
theorem isFileName_clean (name : String) (h : IsFileName name) :
    IsFileName (Text.toOctets (Text.ofOctets name)) :=
  isFileName_toOctets _ (isFileName_ofOctets name h)

/-- A step stays a step when it is cleaned. -/
theorem isStep_clean (c : Component) (h : c.IsStep) : c.clean.IsStep := by
  cases c with
  | root => exact h
  | current => exact h
  | parent => exact h
  | normal name => exact isFileName_clean name h

/-- What can stand in the first place can stand there when it is cleaned. -/
theorem isStart_clean (c : Component) (h : c.IsStart) : c.clean.IsStart := by
  cases c with
  | root => exact h
  | current => exact h
  | parent => exact h
  | normal name => exact isFileName_clean name h

/-- A step can stand in the first place. -/
theorem isStart_of_isStep (c : Component) (h : c.IsStep) : c.IsStart := by
  cases c with
  | root => trivial
  | current => trivial
  | parent => trivial
  | normal name => exact h

/-- A stack in normal form stays so when it is cleaned. -/
theorem normalStack_map_clean (stack : List Component) (h : NormalStack stack) :
    NormalStack (stack.map Component.clean) := by
  induction stack with
  | nil => trivial
  | cons c below ih =>
    cases c with
    | root =>
      obtain rfl : below = [] := h
      rfl
    | current => exact h.elim
    | normal name => exact ⟨isFileName_clean name h.1, ih h.2⟩
    | parent =>
      intro c hc
      obtain ⟨d, hd, rfl⟩ := List.mem_map.mp hc
      rw [h d hd]
      rfl

/-- Components in normal form stay so when they are cleaned. -/
theorem isNormal_map_clean (components : List Component) (h : IsNormal components) :
    IsNormal (components.map Component.clean) := by
  rw [IsNormal, ← List.map_reverse]
  exact normalStack_map_clean components.reverse h

section Writing

/-- A separator is written as itself. -/
theorem charOctets_slash : Text.charOctets '/' = ['/'] :=
  Text.charOctets_of_isAscii '/' (by decide)

/-- A separator is a byte of no other character. -/
theorem slash_mem_charOctets_iff (c : Char) : '/' ∈ Text.charOctets c ↔ '/' = c :=
  Text.mem_charOctets_iff c '/' (by decide)

/-- What a text starts with is a separator exactly when what it is written as starts with one. -/
theorem head?_flatMap_charOctets_iff (s : List Char) :
    (s.flatMap Text.charOctets).head? = some '/' ↔ s.head? = some '/' := by
  cases s with
  | nil => rfl
  | cons c s =>
    rw [List.flatMap_cons, List.head?_append_of_ne_nil _ (Text.charOctets_ne_nil c), List.head?_cons,
      Option.some.injEq]
    constructor
    · exact fun hfirst => ((slash_mem_charOctets_iff c).mp (List.mem_of_head? hfirst)).symm
    · rintro rfl
      rw [charOctets_slash, List.head?_cons]

/-- What a text ends with is a separator exactly when what it is written as ends with one. -/
theorem getLast?_flatMap_charOctets_iff (s : List Char) :
    (s.flatMap Text.charOctets).getLast? = some '/' ↔ s.getLast? = some '/' := by
  rcases List.eq_nil_or_concat s with rfl | ⟨front, c, rfl⟩
  · rfl
  · rw [List.concat_eq_append, List.flatMap_append, List.flatMap_singleton,
      List.getLast?_append_of_ne_nil _ (Text.charOctets_ne_nil c), List.getLast?_append_of_ne_nil _ (by simp),
      List.getLast?_singleton, Option.some.injEq]
    constructor
    · exact fun hlast => ((slash_mem_charOctets_iff c).mp (List.mem_of_getLast? hlast)).symm
    · rintro rfl
      rw [charOctets_slash, List.getLast?_singleton]

/-- A text that is extended by a text is written as the extension of what they are written as. -/
theorem flatMap_charOctets_pushChars (base step : List Char) :
    (pushChars base step).flatMap Text.charOctets =
      pushChars (base.flatMap Text.charOctets) (step.flatMap Text.charOctets) := by
  have hnil : base.flatMap Text.charOctets = [] ↔ base = [] := by
    rw [List.flatMap_eq_nil_iff]
    constructor
    · intro h
      exact List.eq_nil_iff_forall_not_mem.mpr fun c hc => Text.charOctets_ne_nil c (h c hc)
    · rintro rfl c hc
      cases hc
  simp only [pushChars, head?_flatMap_charOctets_iff, getLast?_flatMap_charOctets_iff, hnil]
  split
  · rfl
  · split
    · exact List.flatMap_append
    · rw [List.flatMap_append, List.flatMap_cons, charOctets_slash, List.singleton_append]

/-- The path of a text that is extended by the path of another. -/
theorem join_ofText (base step : String) : (ofText base).join (ofText step) =
    ofText (String.ofList (pushChars base.toList step.toList)) := by
  simp only [join, ofText, Text.toOctets, String.toList_ofList, flatMap_charOctets_pushChars]

/-- A text's path that is extended by one is one. -/
theorem IsText.join {base step : Path} (hbase : base.IsText) (hstep : step.IsText) :
    (base.join step).IsText := by
  obtain ⟨base, rfl⟩ := hbase
  obtain ⟨step, rfl⟩ := hstep
  exact ⟨_, join_ofText base step⟩

/-- What a text is written as is cut at a separator where the text is. -/
theorem exists_of_append_slash_eq (front behind s : List Char)
    (h : front ++ '/' :: behind = s.flatMap Text.charOctets) :
    ∃ before : List Char, front = before.flatMap Text.charOctets := by
  induction s generalizing front with
  | nil => exact absurd h (List.append_ne_nil_of_right_ne_nil _ (List.cons_ne_nil _ _))
  | cons c s ih =>
    rw [List.flatMap_cons, List.append_eq_append_iff] at h
    rcases h with ⟨middle, hc, hrest⟩ | ⟨middle, hfront, hrest⟩
    · cases middle with
      | nil => exact ⟨[c], by rw [List.flatMap_singleton, hc, List.append_nil]⟩
      | cons first middle =>
        obtain rfl : '/' = first := (List.cons.inj hrest).1
        -- A byte that is a separator is the whole character.
        have hslash : '/' ∈ Text.charOctets c := by
          rw [hc]
          exact List.mem_append_right _ List.mem_cons_self
        obtain rfl : '/' = c := (slash_mem_charOctets_iff c).mp hslash
        rw [charOctets_slash] at hc
        have hshort := congrArg List.length hc
        simp only [List.length_append, List.length_cons, List.length_nil] at hshort
        have hnil : front = [] := List.eq_nil_of_length_eq_zero (by omega)
        exact ⟨[], hnil⟩
    · obtain ⟨before, hbefore⟩ := ih middle hrest.symm
      exact ⟨c :: before, by rw [hfront, hbefore, List.flatMap_cons]⟩

/-- What is extended by a relative path and gives a text's path is one. -/
theorem isText_of_join (base step : Path) (hstep : step.isAbsolute = false)
    (h : (base.join step).IsText) : base.IsText := by
  obtain ⟨s, hs⟩ := h
  have hrelative : ¬ step.octets.toList.head? = some '/' := (isAbsolute_eq_false_iff step).mp hstep
  have hwritten : pushChars base.octets.toList step.octets.toList = s.toList.flatMap Text.charOctets :=
    String.ofList_injective (congrArg octets hs)
  have htext (chars : List Char) (hchars : base.octets.toList = chars.flatMap Text.charOctets) :
      base.IsText := by
    refine ⟨String.ofList chars, congrArg Path.mk ?_⟩
    rw [Text.toOctets, String.toList_ofList, ← hchars, String.ofList_toList]
  rw [pushChars, if_neg hrelative] at hwritten
  split_ifs at hwritten with hends
  · rcases hends with hnil | hslash
    · exact htext [] hnil
    · obtain ⟨front, hfront⟩ := List.getLast?_eq_some_iff.mp hslash
      rw [hfront, List.append_assoc, List.singleton_append] at hwritten
      obtain ⟨before, hbefore⟩ := exists_of_append_slash_eq _ _ _ hwritten
      apply htext (before ++ ['/'])
      rw [hfront, hbefore, List.flatMap_append, List.flatMap_singleton, charOctets_slash]
  · obtain ⟨before, hbefore⟩ := exists_of_append_slash_eq _ _ _ hwritten
    exact htext before hbefore

/-- The path that is read from a text of components is written from clean components. -/
theorem ofText_spell (components : List Component) :
    ofText (spell components) = ofComponents (components.map Component.clean) := by
  have hfold (out : List Char) :
      ofText (String.ofList (components.foldl (fun out c => pushChars out c.display.toList) out)) =
        (components.map Component.clean).foldl push (ofText (String.ofList out)) := by
    induction components generalizing out with
    | nil => rfl
    | cons c components ih =>
      have hpush : (ofText (String.ofList out)).push c.clean =
          ofText (String.ofList (pushChars out c.display.toList)) := by
        have hwritten : (⟨c.clean.octets⟩ : Path) = ofText c.display := by rw [c.octets_clean, ofText]
        rw [push, hwritten, join_ofText, String.toList_ofList]
      rw [List.foldl_cons, ih, List.map_cons, List.foldl_cons, hpush]
  exact hfold []

end Writing

section Reading

/-- The path that is read from the text that shows a path. -/
def clean (p : Path) : Path :=
  ofComponents (p.components.map Component.clean)

/-- What shows a path with single separators is read as the clean path. -/
theorem ofText_toSlash (p : Path) : ofText p.toSlash = p.clean :=
  ofText_spell p.components

/-- The components of a path are well formed, if there are any. -/
theorem components_wellFormed (p : Path) : p.components = [] ∨
    ∃ first steps, p.components = first :: steps ∧ first.IsStart ∧ ∀ c ∈ steps, c.IsStep := by
  have hsteps := isStep_of_mem_innerComponents p.octets.toList
  rw [components, componentsOf_eq, leading]
  split
  · exact .inr ⟨.root, _, rfl, trivial, hsteps⟩
  · split
    · exact .inr ⟨.current, _, rfl, trivial, hsteps⟩
    · rw [List.nil_append]
      cases hinner : innerComponents p.octets.toList with
      | nil => exact .inl rfl
      | cons first steps =>
        rw [hinner] at hsteps
        obtain ⟨hfirst, hsteps⟩ := List.forall_mem_cons.mp hsteps
        exact .inr ⟨first, steps, rfl, isStart_of_isStep first hfirst, hsteps⟩

/-- A clean path has the clean components of the path. -/
theorem components_clean (p : Path) : p.clean.components = p.components.map Component.clean := by
  rcases p.components_wellFormed with hnil | ⟨first, steps, hcomponents, hfirst, hsteps⟩
  · rw [clean, hnil]
    rfl
  · have hclean : ∀ c ∈ steps.map Component.clean, c.IsStep := by
      intro c hc
      obtain ⟨d, hd, rfl⟩ := List.mem_map.mp hc
      exact isStep_clean d (hsteps d hd)
    rw [clean, hcomponents, List.map_cons,
      components_ofComponents first.clean _ (isStart_clean first hfirst) hclean]

/-- Paths are spelled alike exactly when their clean components are the same. -/
theorem toSlash_eq_iff (p q : Path) :
    p.toSlash = q.toSlash ↔
      p.components.map Component.clean = q.components.map Component.clean := by
  rw [← components_clean, ← components_clean]
  constructor
  · intro h
    rw [← ofText_toSlash, ← ofText_toSlash, h]
  · intro h
    rw [components_clean, components_clean] at h
    have hclean : p.clean = q.clean := congrArg ofComponents h
    rw [← ofText_toSlash, ← ofText_toSlash] at hclean
    exact Text.toOctets_injective (Path.mk.inj hclean)

/-- The pieces of what a text is written as are what its pieces are written as. -/
theorem pieces_flatMap_charOctets (s : List Char) :
    pieces (s.flatMap Text.charOctets) = (pieces s).map fun piece => piece.flatMap Text.charOctets := by
  induction s with
  | nil => rfl
  | cons c s ih =>
    obtain ⟨first, rest, hpieces⟩ := List.exists_cons_of_ne_nil (Text.splitAt_ne_nil (· == '/') s)
    have hrest : pieces (s.flatMap Text.charOctets) =
        first.flatMap Text.charOctets :: rest.map fun piece => piece.flatMap Text.charOctets := by
      rw [ih, pieces, hpieces, List.map_cons]
    by_cases hc : c = '/'
    · subst hc
      have hcut (t : List Char) : pieces ('/' :: t) = [] :: pieces t := rfl
      rw [List.flatMap_cons, charOctets_slash, List.singleton_append, hcut, hcut, ih]
      rfl
    · have hseparate : ∀ d ∈ Text.charOctets c, (d == '/') = false := by
        intro d hd
        rw [beq_eq_false_iff_ne]
        rintro rfl
        exact hc ((slash_mem_charOctets_iff c).mp hd).symm
      have hne : ¬ (c == '/') = true := by simpa using hc
      rw [List.flatMap_cons, pieces,
        Text.splitAt_append_of_forall _ _ _ _ _ hseparate hrest, pieces, Text.splitAt, if_neg hne, hpieces,
        Text.consHead, List.map_cons, List.flatMap_cons]

/-- A text is written as ASCII characters exactly when it is the text of these characters. -/
theorem flatMap_charOctets_eq_iff (s short : List Char) (hshort : short.all Text.isAscii = true) :
    s.flatMap Text.charOctets = short ↔ s = short := by
  have hself : Text.toOctets (.ofList short) = .ofList short :=
    Text.toOctets_of_isAscii (.ofList short) (by rwa [String.toList_ofList, ← List.all_eq_true])
  constructor
  · intro h
    have hwritten : Text.toOctets (.ofList s) = Text.toOctets (.ofList short) := by
      rw [hself, Text.toOctets, String.toList_ofList, h]
    exact String.ofList_injective (Text.toOctets_injective hwritten)
  · rintro rfl
    rw [Text.toOctets, String.toList_ofList] at hself
    exact String.ofList_injective hself

/-- What a piece of a text stands for, in the path of the text. -/
theorem innerComponent?_flatMap_charOctets (piece : List Char) :
    innerComponent? (piece.flatMap Text.charOctets) = (innerComponent? piece).map Component.ofText := by
  rw [innerComponent?, innerComponent?]
  simp only [flatMap_charOctets_eq_iff piece [] rfl, flatMap_charOctets_eq_iff piece ['.'] rfl,
    flatMap_charOctets_eq_iff piece ['.', '.'] rfl]
  split
  · rfl
  split
  · rfl
  split
  · rfl
  · rw [Option.map_some, Component.ofText, Text.toOctets, String.toList_ofList]

/-- The path of a text has the components of the text. -/
theorem components_ofText (s : String) :
    (ofText s).components = (componentsOf s.toList).map Component.ofText := by
  have hinner : innerComponents (s.toList.flatMap Text.charOctets) =
      (innerComponents s.toList).map Component.ofText := by
    rw [innerComponents, pieces_flatMap_charOctets, List.filterMap_map, innerComponents,
      List.map_filterMap]
    exact List.filterMap_congr fun piece _ => innerComponent?_flatMap_charOctets piece
  have hdot : (pieces (s.toList.flatMap Text.charOctets)).head? = some ['.'] ↔
      (pieces s.toList).head? = some ['.'] := by
    rw [pieces_flatMap_charOctets, List.head?_map, Option.map_eq_some_iff]
    constructor
    · rintro ⟨piece, hpiece, hwritten⟩
      rwa [(flatMap_charOctets_eq_iff piece ['.'] rfl).mp hwritten] at hpiece
    · exact fun hpiece => ⟨['.'], hpiece, (flatMap_charOctets_eq_iff ['.'] ['.'] rfl).mpr rfl⟩
  have hleading : leading (s.toList.flatMap Text.charOctets) =
      (leading s.toList).map Component.ofText := by
    simp only [leading, head?_flatMap_charOctets_iff, hdot]
    split
    · rfl
    split
    · rfl
    · rfl
  rw [components, ofText, Text.toOctets, String.toList_ofList, componentsOf_eq, componentsOf_eq, hinner,
    hleading, List.map_append]

/-- The components of a text's path are clean. -/
theorem IsText.clean_of_mem {p : Path} (h : p.IsText) : ∀ c ∈ p.components, c.clean = c := by
  obtain ⟨s, rfl⟩ := h
  intro c hc
  rw [components_ofText] at hc
  obtain ⟨d, -, rfl⟩ := List.mem_map.mp hc
  exact d.clean_ofText

end Reading

section Normal

/-- A text's path is shown as the text. -/
@[simp]
theorem display_ofText (s : String) : (ofText s).display = s :=
  Text.ofOctets_toOctets s

/-- Different texts write different paths. -/
@[simp]
theorem ofText_inj (s t : String) : ofText s = ofText t ↔ s = t := by
  constructor
  · intro h
    rw [← display_ofText s, h, display_ofText]
  · rintro rfl
    rfl

/-- A path is written by a text exactly when it is written by the text that shows it. -/
theorem isText_iff (p : Path) : p.IsText ↔ ofText p.display = p := by
  constructor
  · rintro ⟨s, rfl⟩
    rw [display_ofText]
  · exact fun h => ⟨p.display, h.symm⟩

/-- The text of a path is the one that writes it. -/
theorem text?_eq_some_iff (p : Path) (s : String) : p.text? = some s ↔ p = ofText s := by
  rw [text?, Text.readOctets?_eq_some_iff, ofText, ← Path.mk.injEq]

/-- Clean components stay as they are. -/
theorem map_clean_eq_self (components : List Component) (h : ∀ c ∈ components, c.clean = c) :
    components.map Component.clean = components :=
  (List.map_congr_left h).trans (List.map_id' components)

/-- A path that is written from clean components is written by a text. -/
theorem isText_ofComponents (components : List Component) (h : ∀ c ∈ components, c.clean = c) :
    (ofComponents components).IsText := by
  exact ⟨spell components, by rw [ofText_spell, map_clean_eq_self components h]⟩

/-- A normal form of clean components is written by a text. -/
theorem isText_ofNormal (components : List Component) (h : ∀ c ∈ components, c.clean = c) :
    (ofNormal components).IsText := by
  unfold ofNormal
  split
  · exact ⟨".", by decide⟩
  · exact isText_ofComponents components h

/-- The normal form of a text's path has clean components. -/
theorem IsText.clean_of_mem_normalizeComponents {p : Path} (h : p.IsText) :
    ∀ c ∈ normalizeComponents p.components, c.clean = c := by
  intro c hc
  rcases mem_normalizeComponents _ c hc with rfl | hmem
  · rfl
  · exact h.clean_of_mem c hmem

/-- Normalising a text's path gives one. -/
theorem IsText.normalize {p : Path} (h : p.IsText) : p.normalize.IsText :=
  isText_ofNormal _ h.clean_of_mem_normalizeComponents

/-- What is read from a text's path is one, from a directory that is one. -/
theorem IsText.resolve {p base : Path} (h : p.IsText) (hbase : base.IsText) :
    (p.resolve base).IsText := by
  rw [Path.resolve]
  split
  · exact h.normalize
  · exact (hbase.join h).normalize

/-- Reading the spelling of a normal form gives the normal form of the clean components. -/
theorem clean_ofNormal (components : List Component) (h : IsNormal components) :
    (ofNormal components).clean = ofNormal (components.map Component.clean) := by
  rw [clean, components_ofNormal components h, ofNormal]
  by_cases hnil : components = []
  · subst hnil
    rfl
  · rw [if_neg hnil, if_neg (mt List.map_eq_nil_iff.mp hnil)]

/-- A normalised path that a text writes is clean. -/
theorem IsText.clean_normalize {p : Path} (h : p.IsText) : p.normalize.clean = p.normalize := by
  rw [Path.normalize, clean_ofNormal _ (isNormal_normalizeComponents p),
    map_clean_eq_self _ h.clean_of_mem_normalizeComponents]

end Normal

end UnityBuild.Path
