import Mathlib.Data.List.Infix
import Mathlib.Data.List.TakeWhile
import UnityBuild.Text.Blank
import UnityBuild.Text.Reader

/-!
# What a text starts with

A reader that looks for a fixed text finds it exactly when the text starts with it, and among fixed
texts of which none goes on from another at most one is found. A run of characters of a class that
a character of another class ends is determined by the text. Trimming takes away blanks at the ends
of a text and nothing else, so nothing of a text that starts and ends with other characters.
-/

namespace UnityBuild.Text

section FixedTexts

/-- What follows a fixed text is the rest of a text that starts with it. -/
theorem after?_eq_some_iff (literal s rest : List Char) :
    after? literal s = some rest ↔ s = literal ++ rest := by
  induction literal generalizing s with
  | nil => rw [after?, Option.some.injEq, List.nil_append]
  | cons a literal ih =>
    cases s with
    | nil => simp only [after?, List.cons_append, reduceCtorEq]
    | cons c s =>
      rw [after?, List.cons_append, List.cons.injEq]
      by_cases ha : a = c
      · rw [if_pos ha, ih]
        exact (and_iff_right ha.symm).symm
      · rw [if_neg ha]
        simp only [reduceCtorEq, Ne.symm ha, false_and]

/-- No text of the list goes on from another one. -/
def PrefixFree (literals : List String) : Prop :=
  ∀ v ∈ literals, ∀ w ∈ literals, v.toList <+: w.toList → v = w

instance (literals : List String) : Decidable (PrefixFree literals) :=
  inferInstanceAs (Decidable (∀ v ∈ literals, ∀ w ∈ literals, v.toList <+: w.toList → v = w))

/-- What follows one of some texts is the rest of a text that starts with one of them. -/
theorem afterAny?_eq_some_iff (literals : List String) (hfree : PrefixFree literals)
    (s rest : List Char) :
    afterAny? literals s = some rest ↔ ∃ w ∈ literals, s = w.toList ++ rest := by
  constructor
  · intro h
    obtain ⟨w, hw, hrest⟩ := List.exists_of_findSome?_eq_some h
    exact ⟨w, hw, (after?_eq_some_iff _ _ _).mp hrest⟩
  · rintro ⟨w, hw, hs⟩
    have hfound : (afterAny? literals s).isSome := by
      rw [afterAny?, List.findSome?_isSome_iff]
      exact ⟨w, hw, by rw [(after?_eq_some_iff w.toList s rest).mpr hs]; rfl⟩
    obtain ⟨rest', hrest'⟩ := Option.isSome_iff_exists.mp hfound
    obtain ⟨v, hv, hfollows⟩ := List.exists_of_findSome?_eq_some hrest'
    have hs' := (after?_eq_some_iff _ _ _).mp hfollows
    -- Both texts start the same text, so one of them goes on from the other.
    have hsame : v = w := by
      rcases List.prefix_or_prefix_of_prefix ⟨rest', hs'.symm⟩ ⟨rest, hs.symm⟩ with h | h
      · exact hfree v hv w hw h
      · exact (hfree w hw v hv h).symm
    subst hsame
    rw [hrest', List.append_cancel_left (hs'.symm.trans hs)]

end FixedTexts

section Runs

variable (p : Char → Bool)

/-- The run of a class in front of a character that is not in it. -/
theorem takeWhile_append_cons (run rest : List Char) (c : Char) (hrun : ∀ a ∈ run, p a = true)
    (hc : p c = false) :
    (run ++ c :: rest).takeWhile p = run ∧ (run ++ c :: rest).dropWhile p = c :: rest := by
  constructor
  · rw [List.takeWhile_append_of_pos hrun, List.takeWhile_cons_of_neg (by simp [hc]), List.append_nil]
  · rw [List.dropWhile_append_of_pos hrun, List.dropWhile_cons_of_neg (by simp [hc])]

/-- A text is cut in one way into a run of a class, a character that is not in it, and a rest. -/
theorem append_cons_inj (run run' rest rest' : List Char) (c c' : Char)
    (hrun : ∀ a ∈ run, p a = true) (hrun' : ∀ a ∈ run', p a = true) (hc : p c = false)
    (hc' : p c' = false) (h : run ++ c :: rest = run' ++ c' :: rest') :
    run = run' ∧ c = c' ∧ rest = rest' := by
  have hcut := takeWhile_append_cons p run rest c hrun hc
  rw [h] at hcut
  obtain ⟨htake, hdrop⟩ := takeWhile_append_cons p run' rest' c' hrun' hc'
  have hrest := List.cons.inj (hcut.2.symm.trans hdrop)
  exact ⟨hcut.1.symm.trans htake, hrest.1, hrest.2⟩

end Runs

section Trimming

/-- A text that is not blank keeps what follows it when the blanks at its start are dropped. -/
theorem trimStart_append (s t : List Char) (h : isAllBlank s = false) :
    trimStart (s ++ t) = trimStart s ++ t := by
  induction s with
  | nil => cases h
  | cons c s ih =>
    cases hc : isBlank c with
    | true =>
      have hs : isAllBlank s = false := by simpa [isAllBlank, hc] using h
      rw [List.cons_append, trimStart, trimStart, List.dropWhile_cons_of_pos hc,
        List.dropWhile_cons_of_pos hc]
      exact ih hs
    | false =>
      rw [List.cons_append, trimStart, trimStart, List.dropWhile_cons_of_neg (by simp [hc]),
        List.dropWhile_cons_of_neg (by simp [hc]), List.cons_append]

/-- What stays of a text without the blanks at its end also stays of a longer text. -/
theorem trimEnd_prefix_trimEnd_append (s t : List Char) : trimEnd s <+: trimEnd (s ++ t) := by
  rw [trimEnd, trimEnd, List.reverse_append, List.reverse_prefix, List.dropWhile_append]
  split
  · exact List.suffix_refl _
  · exact (List.dropWhile_suffix isBlank).trans (List.suffix_append _ _)

/-- The blanks at the end of a text do not reach a character that is none. -/
theorem trimEnd_append_of_not_isBlank (s : List Char) (c : Char) (hc : isBlank c = false) :
    trimEnd (s ++ [c]) = s ++ [c] := by
  rw [trimEnd, List.reverse_append, List.reverse_singleton, List.singleton_append,
    List.dropWhile_cons_of_neg (by simp [hc]), List.reverse_cons, List.reverse_reverse]

/-- Blanks in front of a text do not count. -/
theorem trim_append_of_isAllBlank (blanks s : List Char) (h : isAllBlank blanks = true) :
    trim (blanks ++ s) = trim s := by
  rw [trim, trim, trimStart, List.dropWhile_append_of_pos (List.all_eq_true.mp h)]
  rfl

/-- Blanks behind a text do not count. -/
theorem trim_append_blanks (s blanks : List Char) (h : isAllBlank blanks = true) :
    trim (s ++ blanks) = trim s := by
  have hblanks : ∀ c ∈ blanks.reverse, isBlank c = true :=
    fun c hc => List.all_eq_true.mp h c (List.mem_reverse.mp hc)
  rw [trim, trim, trimStart, trimStart, List.dropWhile_append]
  split
  · rename_i hs
    rw [List.isEmpty_iff.mp hs, List.dropWhile_eq_nil_iff.mpr (List.all_eq_true.mp h)]
  · rw [trimEnd, trimEnd, List.reverse_append, List.dropWhile_append_of_pos hblanks]

/-- Trimming takes blanks away at both ends and nothing else. -/
theorem exists_trim (s : List Char) :
    ∃ front behind, s = front ++ trim s ++ behind ∧ (∀ c ∈ front, isBlank c = true) ∧
      ∀ c ∈ behind, isBlank c = true := by
  refine ⟨s.takeWhile isBlank, ((trimStart s).reverse.takeWhile isBlank).reverse, ?_, ?_, ?_⟩
  · have hend : trim s ++ ((trimStart s).reverse.takeWhile isBlank).reverse = trimStart s := by
      rw [trim, trimEnd, ← List.reverse_append, List.takeWhile_append_dropWhile, List.reverse_reverse]
    rw [List.append_assoc, hend, trimStart, List.takeWhile_append_dropWhile]
  · exact fun c hc => List.mem_takeWhile_imp hc
  · exact fun c hc => List.mem_takeWhile_imp (List.mem_reverse.mp hc)

/-- A text has more blanks than what trimming leaves of it, unless nothing is taken away. -/
theorem trim_eq_of_countP_le (s : List Char)
    (h : s.countP isBlank ≤ (trim s).countP isBlank) : trim s = s := by
  obtain ⟨front, behind, hs, hfront, hbehind⟩ := exists_trim s
  have hcount := congrArg (List.countP isBlank) hs
  rw [List.countP_append, List.countP_append, List.countP_eq_length.mpr hfront,
    List.countP_eq_length.mpr hbehind] at hcount
  obtain rfl : front = [] := List.length_eq_zero_iff.mp (by omega)
  obtain rfl : behind = [] := List.length_eq_zero_iff.mp (by omega)
  rw [List.nil_append, List.append_nil] at hs
  exact hs.symm

/-- A trimmed text stays in front when more follows the text, unless it holds blanks alone. -/
theorem trim_prefix_trim_append (s t : List Char) (h : isAllBlank s = false) :
    trim s <+: trim (s ++ t) := by
  rw [trim, trim, trimStart_append s t h]
  exact trimEnd_prefix_trimEnd_append _ t

/-- Nothing is dropped in front of a character that is not blank. -/
theorem trimStart_cons (c : Char) (s : List Char) (hc : isBlank c = false) :
    trimStart (c :: s) = c :: s :=
  List.dropWhile_cons_of_neg (by simp [hc])

/-- A trimmed text starts the text without the blanks at its start. -/
theorem trim_prefix_trimStart (s : List Char) : trim s <+: trimStart s :=
  List.reverse_suffix.mp (by rw [trim, trimEnd, List.reverse_reverse]; exact List.dropWhile_suffix _)

/-- A text that does not start or end with a blank stays as it is when it is trimmed. -/
theorem trim_eq_self (first last : Char) (middle : List Char) (hfirst : isBlank first = false)
    (hlast : isBlank last = false) :
    trim (first :: (middle ++ [last])) = first :: (middle ++ [last]) := by
  rw [trim, trimStart_cons first _ hfirst, ← List.cons_append,
    trimEnd_append_of_not_isBlank (first :: middle) last hlast]

/-- A trimmed text does not start with a blank. -/
theorem isBlank_of_trim_eq_cons (s t : List Char) (c : Char) (h : trim s = c :: t) :
    isBlank c = false := by
  have hhead : (s.dropWhile isBlank).head? = some c := by
    obtain ⟨u, hu⟩ := trim_prefix_trimStart s
    rw [h, trimStart] at hu
    rw [← hu]
    rfl
  simpa [hhead] using List.head?_dropWhile_not isBlank s

/-- Trimming leaves something of a text that is not blank. -/
theorem trim_ne_nil (s : List Char) (h : isAllBlank s = false) : trim s ≠ [] := by
  intro htrim
  have hstart : ∀ c ∈ s.dropWhile isBlank, isBlank c = true := by
    intro c hc
    rw [trim, trimEnd, List.reverse_eq_nil_iff, List.dropWhile_eq_nil_iff] at htrim
    exact htrim c (List.mem_reverse.mpr hc)
  have hall : isAllBlank s = true := by
    rw [isAllBlank, List.all_eq_true]
    intro c hc
    rw [← List.takeWhile_append_dropWhile (p := isBlank) (l := s)] at hc
    rcases List.mem_append.mp hc with hc | hc
    · exact List.mem_takeWhile_imp hc
    · exact hstart c hc
  rw [hall] at h
  cases h

end Trimming

end UnityBuild.Text
