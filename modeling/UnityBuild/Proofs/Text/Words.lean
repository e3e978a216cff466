import UnityBuild.Proofs.Path.Components
import UnityBuild.Text.Split

/-!
# Words between blanks

The words of a text are its runs without blanks, however many blanks stand between two of them, in
front of the first or behind the last. So a text has given words exactly when it is written of them
and of blanks, with at least one blank between two words.

Main statement: `words_eq_iff`.
-/

namespace UnityBuild.Text

/-- A word is not empty and has no blank in it. -/
def IsWord (word : List Char) : Prop :=
  word ≠ [] ∧ ∀ c ∈ word, isBlank c = false

/-- A text that is written of words and blanks. Blanks can stand in front of every word; behind a word
the text ends or goes on with a blank. -/
inductive Spaced : List (List Char) → List Char → Prop where
  | blank {s : List Char} (hs : isAllBlank s = true) : Spaced [] s
  | word {blanks word rest : List Char} {words : List (List Char)}
      (hblanks : isAllBlank blanks = true) (hword : IsWord word)
      (hend : ∀ c, rest.head? = some c → isBlank c = true) (hrest : Spaced words rest) :
      Spaced (word :: words) (blanks ++ word ++ rest)

/-- A blank in front of a text changes no word. -/
theorem words_cons_of_isBlank (c : Char) (s : List Char) (hc : isBlank c = true) :
    words (c :: s) = words s := by
  rw [words, splitAt, if_pos hc, List.filter_cons_of_neg (by simp)]
  rfl

/-- Blanks in front of a text change no word. -/
theorem words_append_of_isAllBlank (blanks s : List Char) (h : isAllBlank blanks = true) :
    words (blanks ++ s) = words s := by
  induction blanks with
  | nil => rfl
  | cons c blanks ih =>
    obtain ⟨hc, hblanks⟩ := Bool.and_eq_true_iff.mp h
    rw [List.cons_append, words_cons_of_isBlank c _ hc, ih hblanks]

/-- A text without words is blank. -/
theorem words_eq_nil_iff (s : List Char) : words s = [] ↔ isAllBlank s = true := by
  induction s with
  | nil => simp [words, splitAt, isAllBlank]
  | cons c s ih =>
    cases hc : isBlank c with
    | true =>
      rw [words_cons_of_isBlank c s hc, ih, isAllBlank, isAllBlank, List.all_cons, hc, Bool.true_and]
    | false =>
      have hall : isAllBlank (c :: s) = false := by rw [isAllBlank, List.all_cons, hc, Bool.false_and]
      obtain ⟨piece, pieces, hpieces⟩ := List.exists_cons_of_ne_nil (splitAt_ne_nil isBlank s)
      simp [words, splitAt, hc, hpieces, consHead, hall]

/-- A word by itself is the only word. -/
theorem words_of_isWord (word : List Char) (h : IsWord word) : words word = [word] := by
  rw [words, splitAt_eq_singleton isBlank word h.2, List.filter_cons_of_pos (by simp [h.1])]
  rfl

/-- A word in front of a blank is the first word. -/
theorem words_append_cons (word rest : List Char) (c : Char) (h : IsWord word)
    (hc : isBlank c = true) : words (word ++ c :: rest) = word :: words rest := by
  rw [words, splitAt_append_separator isBlank word rest c hc, splitAt_eq_singleton isBlank word h.2,
    List.singleton_append, List.filter_cons_of_pos (by simp [h.1])]
  rfl

/-- A text that is written of words and blanks has these words. -/
theorem Spaced.words_eq (ws : List (List Char)) (s : List Char) (h : Spaced ws s) : words s = ws := by
  induction h with
  | blank hs => exact (words_eq_nil_iff _).mpr hs
  | @word blanks word rest ws hblanks hword hend _ ih =>
    rw [List.append_assoc, words_append_of_isAllBlank _ _ hblanks]
    cases rest with
    | nil =>
      obtain rfl : [] = ws := ih
      rw [List.append_nil, words_of_isWord word hword]
    | cons c rest =>
      have hc := hend c rfl
      rw [words_append_cons word rest c hword hc, ← ih, words_cons_of_isBlank c rest hc]

/-- A blank in front of a text comes to the blanks in front of it. -/
theorem Spaced.cons_blank (ws : List (List Char)) (s : List Char) (c : Char) (hc : isBlank c = true)
    (h : Spaced ws s) : Spaced ws (c :: s) := by
  cases h with
  | blank hs => exact .blank (Bool.and_eq_true_iff.mpr ⟨hc, hs⟩)
  | @word blanks word rest ws hblanks hword hend hrest =>
    show Spaced (word :: ws) ((c :: blanks) ++ word ++ rest)
    exact .word (Bool.and_eq_true_iff.mpr ⟨hc, hblanks⟩) hword hend hrest

/-- A character that is no blank makes a first word, or comes to the first word of the text when the
text starts with it. -/
theorem Spaced.exists_cons (ws : List (List Char)) (s : List Char) (c : Char) (hc : isBlank c = false)
    (h : Spaced ws s) : ∃ ws', Spaced ws' (c :: s) := by
  have halone (hend : ∀ d, s.head? = some d → isBlank d = true) : Spaced ([c] :: ws) (c :: s) := by
    show Spaced _ ([] ++ [c] ++ s)
    exact .word rfl ⟨List.cons_ne_nil c [], List.forall_mem_singleton.mpr hc⟩ hend h
  cases h with
  | blank hs =>
    exact ⟨_, halone fun d hd => List.all_eq_true.mp hs d (List.mem_of_mem_head? hd)⟩
  | @word blanks word rest ws hblanks hword hend hrest =>
    cases blanks with
    | nil =>
      refine ⟨(c :: word) :: ws, ?_⟩
      show Spaced _ ([] ++ (c :: word) ++ rest)
      exact .word rfl ⟨List.cons_ne_nil c word, List.forall_mem_cons.mpr ⟨hc, hword.2⟩⟩ hend hrest
    | cons b blanks =>
      refine ⟨_, halone fun d hd => ?_⟩
      obtain rfl := Option.some.inj hd
      exact (Bool.and_eq_true_iff.mp hblanks).1

/-- Every text is written of some words and blanks. -/
theorem exists_spaced (s : List Char) : ∃ ws, Spaced ws s := by
  induction s with
  | nil => exact ⟨[], .blank rfl⟩
  | cons c s ih =>
    obtain ⟨ws, hs⟩ := ih
    cases hc : isBlank c with
    | true => exact ⟨ws, hs.cons_blank ws s c hc⟩
    | false => exact hs.exists_cons ws s c hc

/-- A text has given words exactly when it is written of them and of blanks. -/
theorem words_eq_iff (s : List Char) (ws : List (List Char)) : words s = ws ↔ Spaced ws s := by
  constructor
  · rintro rfl
    obtain ⟨ws, hs⟩ := exists_spaced s
    rwa [hs.words_eq]
  · exact fun h => h.words_eq

end UnityBuild.Text
