import Mathlib.Data.List.SplitBy
import UnityBuild.Proofs.Lists
import UnityBuild.Proofs.Naming

/-!
# How the name of a file is made from the runs of its path

A path falls into runs of word characters and runs of others, each as long as it can be. The name of
the file keeps the runs of word characters and has one underscore in place of each other run. In the
name, such an underscore looks like one that stands in the path itself. So two underscores meet in a
name exactly where an underscore of the path is next to another one or to a character that is no word
character.

Main statement: `pathIdentifier_collapses_runs`.
-/

namespace UnityBuild.Naming

/-- A run of characters: it has some, and either all of them are word characters or none is. -/
structure CharRun where
  isWord : Bool
  chars : List Char
  chars_ne_nil : chars ≠ []
  isWordChar_eq : ∀ c ∈ chars, Text.isWordChar c = isWord
deriving DecidableEq

/-- The runs of a text make it up and are as long as they can be: neighbours are never of one kind. -/
structure AreRuns (runs : List CharRun) (s : List Char) : Prop where
  flatMap_chars : runs.flatMap CharRun.chars = s
  alternate : runs.IsChain fun run next => run.isWord ≠ next.isWord

/-- Characters that can stand in one run. -/
def sameKind (c d : Char) : Bool :=
  Text.isWordChar c == Text.isWordChar d

instance (runs : List CharRun) (s : List Char) : Decidable (AreRuns runs s) :=
  decidable_of_iff (runs.flatMap CharRun.chars = s ∧
    runs.IsChain fun run next => run.isWord ≠ next.isWord)
    ⟨fun h => ⟨h.1, h.2⟩, fun h => ⟨h.1, h.2⟩⟩

namespace CharRun

variable (run : CharRun)

/-- What the name of a file has in place of a run. -/
def collapse : List Char :=
  if run.isWord then run.chars else ['_']

/-- The run of a single character. -/
def single (c : Char) : CharRun :=
  ⟨Text.isWordChar c, [c], List.cons_ne_nil c [], List.forall_mem_singleton.mpr rfl⟩

/-- The run with one more character of its kind in front. -/
def cons (c : Char) (hc : Text.isWordChar c = run.isWord) : CharRun :=
  ⟨run.isWord, c :: run.chars, List.cons_ne_nil c _, List.forall_mem_cons.mpr ⟨hc, run.isWordChar_eq⟩⟩

theorem collapse_of_word (h : run.isWord = true) : run.collapse = run.chars :=
  if_pos h

theorem collapse_of_gap (h : run.isWord = false) : run.collapse = ['_'] :=
  if_neg (Bool.eq_false_iff.mp h)

theorem collapse_ne_nil : run.collapse ≠ [] := by
  cases h : run.isWord with
  | true => exact run.collapse_of_word h ▸ run.chars_ne_nil
  | false => exact run.collapse_of_gap h ▸ List.cons_ne_nil _ _

/-- A text that is never empty is not empty for any of some runs. -/
theorem nil_notMem_map (f : CharRun → List Char) (hf : ∀ run, f run ≠ []) (runs : List CharRun) :
    [] ∉ runs.map f := by
  intro hmem
  obtain ⟨run, -, hnil⟩ := List.mem_map.mp hmem
  exact hf run hnil

/-- The characters of a run tell of which kind it is. -/
theorem chars_injective : Function.Injective chars := by
  rintro ⟨isWord, chars, hne, hkind⟩ ⟨isWord', chars', hne', hkind'⟩ (rfl : chars = chars')
  obtain ⟨c, hc⟩ := List.exists_mem_of_ne_nil chars hne
  obtain rfl : isWord = isWord' := (hkind c hc).symm.trans (hkind' c hc)
  rfl

/-- The first character of a run and its last are of its kind. -/
theorem isWordChar_ends :
    Text.isWordChar (run.chars.head run.chars_ne_nil) = run.isWord ∧
      Text.isWordChar (run.chars.getLast run.chars_ne_nil) = run.isWord :=
  ⟨run.isWordChar_eq _ (List.head_mem _), run.isWordChar_eq _ (List.getLast_mem _)⟩

end CharRun

namespace AreRuns

variable {runs runs' : List CharRun} {s : List Char}

/-- The runs of a text are its longest stretches of characters of one kind. -/
theorem map_chars (h : AreRuns runs s) : runs.map CharRun.chars = s.splitBy sameKind := by
  refine (List.splitBy_eq_iff.mpr ⟨?_, CharRun.nil_notMem_map _ CharRun.chars_ne_nil runs, ?_, ?_⟩).symm
  · rw [← h.flatMap_chars, List.flatMap_def]
  · intro piece hpiece
    obtain ⟨run, -, rfl⟩ := List.mem_map.mp hpiece
    refine List.Pairwise.isChain (List.pairwise_of_forall_mem_list fun c hc d hd => ?_)
    rw [sameKind, run.isWordChar_eq c hc, run.isWordChar_eq d hd, beq_self_eq_true]
  · rw [List.isChain_map]
    refine h.alternate.imp fun run next hkinds => ⟨run.chars_ne_nil, next.chars_ne_nil, ?_⟩
    rw [sameKind, run.isWordChar_ends.2, next.isWordChar_ends.1]
    exact beq_false_of_ne hkinds

/-- A text is made up of its runs in one way. -/
theorem unique (h : AreRuns runs s) (h' : AreRuns runs' s) : runs = runs' :=
  List.map_injective_iff.mpr CharRun.chars_injective (h.map_chars.trans h'.map_chars.symm)

end AreRuns

/-- Every text is made up of runs. -/
theorem exists_areRuns (s : List Char) : ∃ runs, AreRuns runs s := by
  induction s with
  | nil => exact ⟨[], rfl, List.isChain_nil⟩
  | cons c s ih =>
    obtain ⟨runs, rfl, halternate⟩ := ih
    cases runs with
    | nil => exact ⟨[.single c], rfl, List.isChain_singleton _⟩
    | cons run runs =>
      -- The character comes to the first run when it is of its kind, else it is a run of its own.
      by_cases hc : Text.isWordChar c = run.isWord
      · exact ⟨run.cons c hc :: runs, rfl, List.isChain_cons.mpr (List.isChain_cons.mp halternate)⟩
      · exact ⟨.single c :: run :: runs, rfl, List.isChain_cons_cons.mpr ⟨hc, halternate⟩⟩

section Collapsing

/-- Word characters stay, and no run of others is open behind them. -/
theorem collapseRuns_append_of_word (word rest : List Char)
    (hword : ∀ c ∈ word, Text.isWordChar c = true) :
    collapseRuns false (word ++ rest) = word ++ collapseRuns false rest := by
  induction word with
  | nil => rfl
  | cons c word ih =>
    obtain ⟨hc, hword⟩ := List.forall_mem_cons.mp hword
    rw [List.cons_append, collapseRuns, if_pos hc, ih hword, List.cons_append]

/-- Other characters are dropped in an open run of them. -/
theorem collapseRuns_append_of_gap (gap rest : List Char)
    (hgap : ∀ c ∈ gap, Text.isWordChar c = false) :
    collapseRuns true (gap ++ rest) = collapseRuns true rest := by
  induction gap with
  | nil => rfl
  | cons c gap ih =>
    obtain ⟨hc, hgap⟩ := List.forall_mem_cons.mp hgap
    rw [List.cons_append, collapseRuns, if_neg (Bool.eq_false_iff.mp hc), if_pos rfl, ih hgap]

/-- Nothing is changed in a text of word characters. -/
theorem collapseRuns_eq_self (s : List Char) (h : ∀ c ∈ s, Text.isWordChar c = true) :
    collapseRuns false s = s := by
  simpa [collapseRuns] using collapseRuns_append_of_word s [] h

/-- A run is collapsed by itself unless an open run goes on with it. Behind it a run is open exactly
when it has no word characters. -/
theorem collapseRuns_chars_append (inRun : Bool) (run : CharRun) (rest : List Char)
    (hopen : inRun = true → run.isWord = true) :
    collapseRuns inRun (run.chars ++ rest) = run.collapse ++ collapseRuns (!run.isWord) rest := by
  obtain ⟨c, chars, hchars⟩ := List.exists_cons_of_ne_nil run.chars_ne_nil
  have hkind := run.isWordChar_eq
  rw [hchars, List.forall_mem_cons] at hkind
  obtain ⟨hc, hkind⟩ := hkind
  cases hword : run.isWord with
  | true =>
    rw [hword] at hc hkind
    rw [run.collapse_of_word hword, hchars, List.cons_append, List.cons_append, collapseRuns,
      if_pos hc, collapseRuns_append_of_word chars rest hkind, Bool.not_true]
  | false =>
    rw [hword] at hc hkind
    obtain rfl : inRun = false := by simpa [hword] using hopen
    rw [run.collapse_of_gap hword, hchars, List.cons_append, List.singleton_append, collapseRuns,
      if_neg (Bool.eq_false_iff.mp hc), if_neg Bool.false_ne_true,
      collapseRuns_append_of_gap chars rest hkind, Bool.not_false]

/-- Runs that alternate are collapsed one by one unless an open run goes on with the first. -/
theorem collapseRuns_flatMap_chars (inRun : Bool) (runs : List CharRun)
    (halternate : runs.IsChain fun run next => run.isWord ≠ next.isWord)
    (hopen : inRun = true → ∀ run ∈ runs.head?, run.isWord = true) :
    collapseRuns inRun (runs.flatMap CharRun.chars) = runs.flatMap CharRun.collapse := by
  induction runs generalizing inRun with
  | nil => rfl
  | cons run runs ih =>
    obtain ⟨hnext, hrest⟩ := List.isChain_cons.mp halternate
    rw [List.flatMap_cons, List.flatMap_cons,
      collapseRuns_chars_append inRun run _ fun h => hopen h run rfl, ih _ hrest]
    -- A run that is open behind this one does not go on with the next, which is of the other kind.
    intro hgap next hmem
    rw [Bool.not_eq_true'] at hgap
    exact eq_true_of_ne_false fun hsame => hnext next hmem (hgap.trans hsame.symm)

/-- The name of a file has the runs of its path, each of them collapsed. -/
theorem AreRuns.toList_pathIdentifier {runs : List CharRun} {path : String}
    (h : AreRuns runs path.toList) :
    (pathIdentifier path).toList = runs.flatMap CharRun.collapse := by
  rw [pathIdentifier, String.toList_ofList, ← h.flatMap_chars]
  exact collapseRuns_flatMap_chars false runs h.alternate fun hopen => absurd hopen Bool.false_ne_true

end Collapsing

section Underscores

/-- Neighbours in a path for which its name has two underscores in a row: an underscore in front of an
underscore or of a character that is no word character, and such a character in front of an
underscore. -/
def DoublesUnderscore (c d : Char) : Prop :=
  (c = '_' ∧ (d = '_' ∨ Text.isWordChar d = false)) ∨ (Text.isWordChar c = false ∧ d = '_')

/-- Neighbours that are underscores. -/
def AreUnderscores (c d : Char) : Prop :=
  c = '_' ∧ d = '_'

instance (c d : Char) : Decidable (DoublesUnderscore c d) :=
  inferInstanceAs (Decidable (_ ∨ _))

variable (c d : Char)

theorem ne_underscore_of_isWordChar_eq_false (hc : Text.isWordChar c = false) : c ≠ '_' := by
  rintro rfl
  cases hc

/-- Of word characters, both have to be underscores. -/
theorem doublesUnderscore_iff_of_word (hc : Text.isWordChar c = true) (hd : Text.isWordChar d = true) :
    DoublesUnderscore c d ↔ AreUnderscores c d := by
  simp [DoublesUnderscore, AreUnderscores, hc, hd]

/-- A word character in front of another character has to be an underscore. -/
theorem doublesUnderscore_iff_of_before_gap (hc : Text.isWordChar c = true)
    (hd : Text.isWordChar d = false) : DoublesUnderscore c d ↔ c = '_' := by
  simp [DoublesUnderscore, hc, hd]

/-- Any character behind one that is no word character has to be an underscore. -/
theorem doublesUnderscore_iff_of_behind_gap (hc : Text.isWordChar c = false) :
    DoublesUnderscore c d ↔ d = '_' := by
  simp [DoublesUnderscore, ne_underscore_of_isWordChar_eq_false c hc, hc]

/-- No neighbours in what is left of a run are underscores exactly when no neighbours in the run double
an underscore. -/
theorem CharRun.isChain_collapse_iff (run : CharRun) :
    (run.collapse.IsChain fun c d => ¬ AreUnderscores c d) ↔
      run.chars.IsChain fun c d => ¬ DoublesUnderscore c d := by
  have hkind := run.isWordChar_eq
  cases hword : run.isWord with
  | true =>
    rw [hword] at hkind
    rw [run.collapse_of_word hword]
    exact List.IsChain.iff_of_mem_imp fun c d hc hd =>
      not_congr (doublesUnderscore_iff_of_word c d (hkind c hc) (hkind d hd)).symm
  | false =>
    rw [hword] at hkind
    rw [run.collapse_of_gap hword]
    refine iff_of_true (List.isChain_singleton _) ?_
    refine List.Pairwise.isChain (List.pairwise_of_forall_mem_list fun c hc d hd => ?_)
    rw [doublesUnderscore_iff_of_behind_gap c d (hkind c hc)]
    exact ne_underscore_of_isWordChar_eq_false d (hkind d hd)

/-- Where a run meets one of the other kind, what is left of them does not have underscores on both
sides exactly when the characters at the border do not double an underscore. -/
theorem CharRun.border_iff (run next : CharRun) (hkinds : run.isWord ≠ next.isWord) :
    (∀ c ∈ run.collapse.getLast?, ∀ d ∈ next.collapse.head?, ¬ AreUnderscores c d) ↔
      ∀ c ∈ run.chars.getLast?, ∀ d ∈ next.chars.head?, ¬ DoublesUnderscore c d := by
  have hlast := run.isWordChar_ends.2
  have hfirst := next.isWordChar_ends.1
  rw [List.getLast?_eq_some_getLast run.chars_ne_nil, List.head?_eq_some_head next.chars_ne_nil]
  cases hword : run.isWord with
  | true =>
    have hnext : next.isWord = false := by simpa [hword] using hkinds.symm
    rw [hword] at hlast
    rw [hnext] at hfirst
    rw [run.collapse_of_word hword, next.collapse_of_gap hnext,
      List.getLast?_eq_some_getLast run.chars_ne_nil]
    simp [AreUnderscores, doublesUnderscore_iff_of_before_gap _ _ hlast hfirst]
  | false =>
    have hnext : next.isWord = true := by simpa [hword] using hkinds.symm
    rw [hword] at hlast
    rw [run.collapse_of_gap hword, next.collapse_of_word hnext,
      List.head?_eq_some_head next.chars_ne_nil]
    simp [AreUnderscores, doublesUnderscore_iff_of_behind_gap _ _ hlast]

/-- No neighbours in the collapsed runs of a text are underscores exactly when no neighbours in the text
double an underscore. -/
theorem AreRuns.isChain_collapse_iff {runs : List CharRun} {s : List Char} (h : AreRuns runs s) :
    ((runs.flatMap CharRun.collapse).IsChain fun c d => ¬ AreUnderscores c d) ↔
      s.IsChain fun c d => ¬ DoublesUnderscore c d := by
  rw [← h.flatMap_chars, List.flatMap_def, List.flatMap_def,
    List.isChain_flatten (CharRun.nil_notMem_map _ CharRun.collapse_ne_nil runs),
    List.isChain_flatten (CharRun.nil_notMem_map _ CharRun.chars_ne_nil runs), List.isChain_map,
    List.isChain_map, List.forall_mem_map, List.forall_mem_map]
  -- Neighbours stand in one run or at the border of two.
  refine and_congr (forall₂_congr fun run _ => run.isChain_collapse_iff) ?_
  rw [List.isChain_iff_getElem, List.isChain_iff_getElem]
  exact forall₂_congr fun i hi => CharRun.border_iff _ _ (h.alternate.getElem i hi)

/-- The name of a file has two underscores in a row exactly when neighbours in its path double an
underscore. -/
theorem double_underscore_iff (path : String) :
    ['_', '_'] <:+: (pathIdentifier path).toList ↔
      ∃ c d, [c, d] <:+: path.toList ∧ DoublesUnderscore c d := by
  have hpair (s : List Char) :
      ['_', '_'] <:+: s ↔ ∃ c d, [c, d] <:+: s ∧ AreUnderscores c d := by
    simp [AreUnderscores]
  obtain ⟨runs, hruns⟩ := exists_areRuns path.toList
  rw [hpair, Lists.exists_pair_infix_iff, Lists.exists_pair_infix_iff, hruns.toList_pathIdentifier,
    hruns.isChain_collapse_iff]

end Underscores

/-- A path is made up of maximal runs in exactly one way, and the name of the file is these runs, those
of word characters unchanged and the others as one underscore each. So the name has word characters
only, a name that is taken for a path is its own name, and a name has two underscores in a row exactly
when in the path an underscore is directly in front of an underscore or of a character that is no word
character, or such a character is directly in front of an underscore. -/
theorem pathIdentifier_collapses_runs (path : String) :
    (∃ runs, (∀ other, AreRuns other path.toList ↔ other = runs) ∧
      (pathIdentifier path).toList = runs.flatMap CharRun.collapse) ∧
    (∀ c ∈ (pathIdentifier path).toList, Text.isWordChar c = true) ∧
    pathIdentifier (pathIdentifier path) = pathIdentifier path ∧
    (['_', '_'] <:+: (pathIdentifier path).toList ↔
      ∃ c d, [c, d] <:+: path.toList ∧ DoublesUnderscore c d) := by
  obtain ⟨runs, hruns⟩ := exists_areRuns path.toList
  have hunique (other : List CharRun) : AreRuns other path.toList ↔ other = runs :=
    ⟨fun hother => hother.unique hruns, fun hsame => hsame ▸ hruns⟩
  have hword : ∀ c ∈ (pathIdentifier path).toList, Text.isWordChar c = true := by
    rw [pathIdentifier, String.toList_ofList]
    exact isWordChar_of_mem_collapseRuns false path.toList
  have hidem : pathIdentifier (pathIdentifier path) = pathIdentifier path := by
    rw [pathIdentifier, collapseRuns_eq_self _ hword, String.ofList_toList]
  exact ⟨⟨runs, hunique, hruns.toList_pathIdentifier⟩, hword, hidem, double_underscore_iff path⟩

/-- The runs of a path in which an underscore stands in front of other characters. -/
def mixedRuns : List CharRun :=
  [(CharRun.single '_').cons 'a' rfl, (CharRun.single '-').cons '/' rfl, .single 'é', .single '.',
    .single 'c']

/-- The underscore stays in its run and the characters behind it become another one. -/
theorem mixedRuns_collapse :
    (∀ other, AreRuns other "a_/-é.c".toList ↔ other = mixedRuns) ∧
      pathIdentifier "a_/-é.c" = "a__é_c" ∧ pathIdentifier "a__é_c" = "a__é_c" ∧
      'é' ∈ (pathIdentifier "a_/-é.c").toList ∧ Text.isWordChar 'é' = true ∧
      ['_', '_'] <:+: (pathIdentifier "a_/-é.c").toList := by
  obtain ⟨⟨runs, hruns, hcollapsed⟩, hword, hidem, hdouble⟩ := pathIdentifier_collapses_runs "a_/-é.c"
  obtain rfl : mixedRuns = runs := (hruns mixedRuns).mp (by decide +kernel)
  have hname : pathIdentifier "a_/-é.c" = "a__é_c" := by
    rw [← String.toList_inj, hcollapsed]
    decide
  have hmem : 'é' ∈ (pathIdentifier "a_/-é.c").toList := by
    rw [hname]
    decide
  rw [hname] at hidem
  have hpair : ['_', '/'] <:+: "a_/-é.c".toList := ⟨['a'], ['-', 'é', '.', 'c'], by decide⟩
  exact ⟨hruns, hname, hidem, hmem, hword 'é' hmem, hdouble.mpr ⟨'_', '/', hpair, by decide⟩⟩

end UnityBuild.Naming
