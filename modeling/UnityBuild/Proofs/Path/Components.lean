import Mathlib.Data.List.Basic
import UnityBuild.Path.Normal

/-!
# Reading components back

A path is written from components and read into components. Whatever is read is well formed: the
root and the current directory stand in the first place only, and names hold no separator. What is
well formed is read back as it was written, and extending a path by a relative one appends the
steps of the second to the components of the first.

Main statements: `components_join` and `components_ofComponents`.
-/

namespace UnityBuild

namespace Text

/-- Cutting at a separator that stands between two texts cuts each of them. -/
theorem splitAt_append_separator (isSeparator : Char → Bool) (s t : List Char) (c : Char)
    (hc : isSeparator c = true) :
    splitAt isSeparator (s ++ c :: t) = splitAt isSeparator s ++ splitAt isSeparator t := by
  induction s with
  | nil => simp [splitAt, hc]
  | cons d s ih =>
    obtain ⟨first, rest, hs⟩ := List.exists_cons_of_ne_nil (splitAt_ne_nil isSeparator s)
    rw [hs] at ih
    simp only [List.cons_append, splitAt, ih, hs]
    split
    · rfl
    · rfl

/-- A text without separators belongs to the first piece of what it stands before. -/
theorem splitAt_append_of_forall (isSeparator : Char → Bool) (s t first : List Char)
    (rest : List (List Char)) (h : ∀ c ∈ s, isSeparator c = false)
    (ht : splitAt isSeparator t = first :: rest) :
    splitAt isSeparator (s ++ t) = (s ++ first) :: rest := by
  induction s with
  | nil => exact ht
  | cons c s ih =>
    have hc : ¬ isSeparator c = true := Bool.eq_false_iff.mp (h c List.mem_cons_self)
    rw [List.cons_append, splitAt, if_neg hc, ih fun d hd => h d (List.mem_cons_of_mem _ hd), consHead,
      List.cons_append]

/-- A text without separators is one piece. -/
theorem splitAt_eq_singleton (isSeparator : Char → Bool) (s : List Char)
    (h : ∀ c ∈ s, isSeparator c = false) : splitAt isSeparator s = [s] := by
  induction s with
  | nil => rfl
  | cons c s ih =>
    have hc := h c List.mem_cons_self
    rw [splitAt, ih fun d hd => h d (List.mem_cons_of_mem _ hd)]
    simp [hc, consHead]

/-- Texts with a separator between each two are cut into these texts. -/
theorem splitAt_intercalate (isSeparator : Char → Bool) (separator : Char)
    (hseparator : isSeparator separator = true) (texts : List (List Char)) (hne : texts ≠ [])
    (h : ∀ text ∈ texts, ∀ c ∈ text, isSeparator c = false) :
    splitAt isSeparator ([separator].intercalate texts) = texts := by
  induction texts with
  | nil => exact absurd rfl hne
  | cons first texts ih =>
    obtain ⟨hfirst, hrest⟩ := List.forall_mem_cons.mp h
    have halone : splitAt isSeparator first = [first] := splitAt_eq_singleton isSeparator first hfirst
    cases texts with
    | nil => rw [List.intercalate_singleton, halone]
    | cons second texts =>
      rw [List.intercalate_cons_cons, List.append_assoc, List.singleton_append,
        splitAt_append_separator isSeparator _ _ separator hseparator, halone,
        ih (List.cons_ne_nil _ _) hrest, List.singleton_append]

/-- The pieces hold what the text has besides separators. -/
theorem flatten_splitAt (isSeparator : Char → Bool) (s : List Char) :
    (splitAt isSeparator s).flatten = s.filter fun c => !isSeparator c := by
  induction s with
  | nil => rfl
  | cons c s ih =>
    obtain ⟨first, rest, hs⟩ := List.exists_cons_of_ne_nil (splitAt_ne_nil isSeparator s)
    rw [hs] at ih
    rw [splitAt, hs]
    split
    · rename_i hc
      rw [List.filter_cons_of_neg (by simp [hc]), ← ih, List.flatten_cons, List.nil_append]
    · rename_i hc
      rw [List.filter_cons_of_pos (by simp [hc]), ← ih, consHead, List.flatten_cons, List.flatten_cons,
        List.cons_append]

/-- The characters of a piece are characters of the text. -/
theorem mem_of_mem_splitAt (isSeparator : Char → Bool) (s : List Char) :
    ∀ piece ∈ splitAt isSeparator s, ∀ c ∈ piece, c ∈ s := by
  intro piece hpiece c hc
  have hmem := List.mem_flatten_of_mem hpiece hc
  rw [flatten_splitAt] at hmem
  exact (List.mem_filter.mp hmem).1

end Text

namespace Path

/-- A name that can stand for a file: it is not empty, has no separator and is no dot step. -/
def IsFileName (name : String) : Prop :=
  name.toList ≠ [] ∧ '/' ∉ name.toList ∧ name.toList ≠ ['.'] ∧ name.toList ≠ ['.', '.']

/-- A component that can stand behind the first place. -/
def Component.IsStep : Component → Prop
  | .parent => True
  | .normal name => IsFileName name
  | _ => False

/-- A component that can stand in the first place. -/
def Component.IsStart : Component → Prop
  | .normal name => IsFileName name
  | _ => True

/-- Components that are all names of files. -/
def AreNames (components : List Component) : Prop :=
  ∀ c ∈ components, ∃ name, c = .normal name ∧ IsFileName name

namespace AreNames

variable {names : List Component}

/-- No components are names alone. -/
theorem nil : AreNames [] :=
  fun _ hc => absurd hc List.not_mem_nil

/-- A name in front of names. -/
theorem cons {name : String} (hname : IsFileName name) (h : AreNames names) :
    AreNames (.normal name :: names) :=
  List.forall_mem_cons.mpr ⟨⟨name, rfl, hname⟩, h⟩

/-- Behind the first name the others are names. -/
theorem of_cons {c : Component} (h : AreNames (c :: names)) : AreNames names :=
  fun d hd => h d (List.mem_cons_of_mem c hd)

/-- The last of some names are names. -/
theorem of_append_right {start : List Component} (h : AreNames (start ++ names)) : AreNames names :=
  fun c hc => h c (List.mem_append_right start hc)

/-- Names behind names. -/
theorem append {others : List Component} (h : AreNames names) (hothers : AreNames others) :
    AreNames (names ++ others) :=
  List.forall_mem_append.mpr ⟨h, hothers⟩

/-- Names in reverse order are names. -/
theorem reverse (h : AreNames names) : AreNames names.reverse :=
  fun c hc => h c (List.mem_reverse.mp hc)

/-- Names are steps. -/
theorem isStep (h : AreNames names) : ∀ c ∈ names, c.IsStep := by
  intro c hc
  obtain ⟨name, rfl, hname⟩ := h c hc
  exact hname

end AreNames

/-- The steps of a text: what its pieces stand for behind the first place. -/
def innerComponents (s : List Char) : List Component :=
  (pieces s).filterMap innerComponent?

/-- The component that only the first place can hold. -/
def leading (s : List Char) : List Component :=
  if s.head? = some '/' then [.root]
  else if (pieces s).head? = some ['.'] then [.current]
  else []

/-- The components of a text are the one that only the first place can hold and the steps. -/
theorem componentsOf_eq (s : List Char) : componentsOf s = leading s ++ innerComponents s := by
  have hhead (s : List Char) (hroot : ∀ t, s = '/' :: t → False) : s.head? ≠ some '/' := by
    intro h
    obtain ⟨t, rfl⟩ := List.head?_eq_some_iff.mp h
    exact hroot t rfl
  unfold componentsOf leading innerComponents
  split
  · simp
  · rename_i s _ _ parts hroot hparts
    simp [hhead s hroot, hparts, innerComponent?]
  · rename_i s _ _ hroot hcurrent
    have hpiece : (pieces s).head? ≠ some ['.'] := by
      intro h
      obtain ⟨parts, hparts⟩ := List.head?_eq_some_iff.mp h
      exact hcurrent parts hparts
    simp [hhead s hroot, hpiece]

/-- What a piece stands for is a step. -/
theorem isStep_of_innerComponent? (piece : List Char) (hpiece : '/' ∉ piece) (c : Component)
    (h : innerComponent? piece = some c) : c.IsStep := by
  unfold innerComponent? at h
  split at h
  · cases h
  · split at h
    · cases h
    · split at h
      · cases h
        trivial
      · cases h
        simp_all [Component.IsStep, IsFileName]

/-- The steps of a text are steps. -/
theorem isStep_of_mem_innerComponents (s : List Char) : ∀ c ∈ innerComponents s, c.IsStep := by
  intro c hc
  obtain ⟨piece, hpiece, hinner⟩ := List.mem_filterMap.mp hc
  apply isStep_of_innerComponent? piece _ c hinner
  intro hslash
  have hfalse := Text.not_isSeparator_of_mem_splitAt (· == '/') s piece hpiece '/' hslash
  simp at hfalse

/-- Extending a text keeps its first place. -/
theorem leading_pushChars (base step : List Char) (hbase : base ≠ []) (hstep : step.head? ≠ some '/') :
    leading (pushChars base step) = leading base := by
  have hsplit (s t : List Char) (hs : s ≠ []) : leading (s ++ '/' :: t) = leading s := by
    have hhead : (s ++ '/' :: t).head? = s.head? := List.head?_append_of_ne_nil s hs
    have hpieces : (pieces (s ++ '/' :: t)).head? = (pieces s).head? := by
      rw [pieces, Text.splitAt_append_separator (· == '/') s t '/' rfl]
      exact List.head?_append_of_ne_nil _ (Text.splitAt_ne_nil _ s)
    rw [leading, leading, hhead, hpieces]
  unfold pushChars
  rw [if_neg hstep]
  split
  · rename_i hend
    obtain ⟨init, rfl⟩ := List.getLast?_eq_some_iff.mp (hend.resolve_left hbase)
    rw [List.append_assoc]
    by_cases hinit : init = []
    · subst hinit
      rfl
    · exact (hsplit init step hinit).trans (hsplit init [] hinit).symm
  · exact hsplit base step hbase

/-- Extending a text appends the steps of the extension. -/
theorem innerComponents_pushChars (base step : List Char) (hstep : step.head? ≠ some '/') :
    innerComponents (pushChars base step) = innerComponents base ++ innerComponents step := by
  have hsplit (s t : List Char) :
      innerComponents (s ++ '/' :: t) = innerComponents s ++ innerComponents t := by
    rw [innerComponents, pieces, Text.splitAt_append_separator (· == '/') s t '/' rfl,
      List.filterMap_append]
    rfl
  unfold pushChars
  rw [if_neg hstep]
  split
  · rename_i hend
    rcases hend with rfl | hlast
    · rfl
    · obtain ⟨init, rfl⟩ := List.getLast?_eq_some_iff.mp hlast
      have hnil : innerComponents [] = [] := rfl
      rw [List.append_assoc, List.singleton_append, hsplit, hsplit, hnil, List.append_nil]
  · exact hsplit base step

/-- A path is absolute exactly when the root is its first component. -/
theorem isAbsolute_iff (p : Path) : p.isAbsolute = true ↔ p.octets.toList.head? = some '/' := by
  simp [isAbsolute]

/-- A path is relative exactly when the root is not its first component. -/
theorem isAbsolute_eq_false_iff (p : Path) :
    p.isAbsolute = false ↔ p.octets.toList.head? ≠ some '/' := by
  rw [ne_eq, ← isAbsolute_iff, Bool.not_eq_true]

/-- The components of a path that is not empty, extended by a relative path. -/
theorem components_join (base step : Path) (hbase : base.octets.toList ≠ [])
    (hstep : step.isAbsolute = false) :
    (base.join step).components = base.components ++ innerComponents step.octets.toList := by
  have hhead := (isAbsolute_eq_false_iff step).mp hstep
  rw [components, components, componentsOf_eq, componentsOf_eq, join, String.toList_ofList,
    leading_pushChars _ _ hbase hhead, innerComponents_pushChars _ _ hhead, List.append_assoc]

/-- A relative path that extends the empty path is the result. -/
theorem empty_join (step : Path) : empty.join step = step := by
  have htext : pushChars [] step.octets.toList = step.octets.toList := by
    unfold pushChars
    split
    · rfl
    · simp
  exact congrArg Path.mk ((congrArg String.ofList htext).trans String.ofList_toList)

/-- The name of a file is one piece. -/
theorem pieces_of_isFileName (name : String) (h : IsFileName name) :
    pieces name.toList = [name.toList] := by
  apply Text.splitAt_eq_singleton
  intro c hc
  have hne : c ≠ '/' := fun heq => h.2.1 (heq ▸ hc)
  simpa using hne

/-- A step that is written alone is read as that step. -/
theorem innerComponents_octets (c : Component) (hc : c.IsStep) : innerComponents c.octets.toList = [c] := by
  cases c with
  | root => exact hc.elim
  | current => exact hc.elim
  | parent => decide
  | normal name =>
    obtain ⟨hnil, hslash, hdot, hdots⟩ := hc
    simp only [innerComponents, Component.octets, pieces_of_isFileName name ⟨hnil, hslash, hdot, hdots⟩]
    simp [innerComponent?, hnil, hdot, hdots]

/-- A component that is written alone is read as that component. -/
theorem components_octets (c : Component) (hc : c.IsStart) : components ⟨c.octets⟩ = [c] := by
  cases c with
  | root => decide
  | current => decide
  | parent => decide
  | normal name =>
    obtain ⟨hnil, hslash, hdot, hdots⟩ := hc
    have hhead : name.toList.head? ≠ some '/' := fun h => hslash (List.mem_of_head? h)
    have hleading : leading name.toList = [] := by
      simp [leading, hhead, pieces_of_isFileName name ⟨hnil, hslash, hdot, hdots⟩, hdot]
    have hsteps := innerComponents_octets (.normal name) ⟨hnil, hslash, hdot, hdots⟩
    rw [components, componentsOf_eq, Component.octets, hleading]
    exact hsteps

/-- A step is written as a relative path. -/
theorem isAbsolute_octets_of_isStep (c : Component) (hc : c.IsStep) :
    isAbsolute ⟨c.octets⟩ = false := by
  cases c with
  | root => exact hc.elim
  | current => exact hc.elim
  | parent => decide
  | normal name =>
    rw [Bool.eq_false_iff]
    intro h
    exact hc.2.1 (List.mem_of_head? ((isAbsolute_iff _).mp h))

/-- A file of a directory has the components of the directory and its name. -/
theorem components_join_fileName (directory : Path) (name : String) (hname : IsFileName name) :
    (directory.join ⟨name⟩).components = directory.components ++ [.normal name] := by
  by_cases hdirectory : directory.octets.toList = []
  · have hempty : directory = empty := congrArg Path.mk (String.toList_eq_nil_iff.mp hdirectory)
    rw [hempty, empty_join]
    exact components_octets (.normal name) hname
  · have hrelative : isAbsolute ⟨name⟩ = false := isAbsolute_octets_of_isStep (.normal name) hname
    have hsteps : innerComponents name.toList = [.normal name] :=
      innerComponents_octets (.normal name) hname
    rw [components_join directory ⟨name⟩ hdirectory hrelative, hsteps]

/-- Pushing steps onto a path that is not empty appends them to its components. -/
theorem components_foldl_push (p : Path) (hp : p.octets.toList ≠ []) (steps : List Component)
    (hsteps : ∀ c ∈ steps, c.IsStep) :
    (steps.foldl push p).components = p.components ++ steps := by
  induction steps generalizing p with
  | nil => simp
  | cons c steps ih =>
    have hc := hsteps c List.mem_cons_self
    have hpush : (p.push c).components = p.components ++ [c] := by
      rw [push, components_join p _ hp (isAbsolute_octets_of_isStep c hc), innerComponents_octets c hc]
    have hne : (p.push c).octets.toList ≠ [] := by
      intro h
      rw [components, h] at hpush
      exact absurd hpush.symm (by simp [componentsOf, pieces, Text.splitAt, innerComponent?])
    rw [List.foldl_cons, ih _ hne fun d hd => hsteps d (List.mem_cons_of_mem _ hd), hpush]
    simp

/-- Components that are well formed are read back as they were written. -/
theorem components_ofComponents (first : Component) (steps : List Component)
    (hfirst : first.IsStart) (hsteps : ∀ c ∈ steps, c.IsStep) :
    (ofComponents (first :: steps)).components = first :: steps := by
  have hne : first.octets.toList ≠ [] := by
    intro h
    have hread := components_octets first hfirst
    rw [components, h] at hread
    exact absurd hread (by simp [componentsOf, pieces, Text.splitAt, innerComponent?])
  have hwrite : ofComponents (first :: steps) = steps.foldl push ⟨first.octets⟩ := by
    rw [ofComponents, List.foldl_cons, push, empty_join]
  rw [hwrite, components_foldl_push ⟨first.octets⟩ hne steps hsteps, components_octets first hfirst]
  rfl

end Path

end UnityBuild
