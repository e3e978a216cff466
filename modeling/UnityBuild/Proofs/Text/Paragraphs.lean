import UnityBuild.Proofs.Path.Components

/-!
# Paragraphs

A text can be written as paragraphs with an empty line between each two, and a paragraph as lines. When
no line is empty, the places where the text has an empty line are the ends of the paragraphs, although
the same character ends lines and paragraphs: so cutting at the empty lines gives the paragraphs back,
and cutting these at the line feeds gives their lines.

Main statements: `paragraphs_writeParagraphs` and `splitAt_writeLines`.
-/

namespace UnityBuild.Text

/-- What stands between the empty lines of a text: from the left, each two line feeds in a row end a
paragraph. -/
def paragraphs : List Char → List (List Char)
  | [] => [[]]
  | '\n' :: '\n' :: s => [] :: paragraphs s
  | c :: s => consHead c (paragraphs s)

/-- Writes lines with a line feed between each two. -/
def writeLines (lines : List (List Char)) : List Char :=
  ['\n'].intercalate lines

/-- Writes paragraphs, which are given as lines, with an empty line between each two. -/
def writeParagraphs (blocks : List (List (List Char))) : List Char :=
  ['\n', '\n'].intercalate (blocks.map writeLines)

/-- A line that is not empty. -/
def IsLine (s : List Char) : Prop :=
  s ≠ [] ∧ '\n' ∉ s

/-- Lines of which there is at least one and none is empty. -/
def IsBlock (lines : List (List Char)) : Prop :=
  lines ≠ [] ∧ ∀ line ∈ lines, IsLine line

section Writing

/-- A line in front of others ends in a line feed. -/
theorem writeLines_cons_cons (line next : List Char) (lines : List (List Char)) :
    writeLines (line :: next :: lines) = line ++ '\n' :: writeLines (next :: lines) := by
  rw [writeLines, List.intercalate_cons_cons, List.append_assoc, List.singleton_append, writeLines]

/-- Lines start with the first of them. -/
theorem exists_writeLines_cons (line : List Char) (lines : List (List Char)) :
    ∃ s, writeLines (line :: lines) = line ++ s := by
  cases lines with
  | nil => exact ⟨[], by rw [writeLines, List.intercalate_singleton, List.append_nil]⟩
  | cons next lines => exact ⟨_, writeLines_cons_cons line next lines⟩

/-- A paragraph alone is written as its lines. -/
theorem writeParagraphs_singleton (lines : List (List Char)) :
    writeParagraphs [lines] = writeLines lines :=
  List.intercalate_singleton

/-- A paragraph in front of others is followed by an empty line. -/
theorem writeParagraphs_cons_cons (lines next : List (List Char)) (blocks : List (List (List Char))) :
    writeParagraphs (lines :: next :: blocks) =
      writeLines lines ++ '\n' :: '\n' :: writeParagraphs (next :: blocks) := by
  rw [writeParagraphs, List.map_cons, List.map_cons, List.intercalate_cons_cons, List.append_assoc]
  rfl

end Writing

section Reading

/-- A character other than a line feed belongs to the first paragraph. -/
theorem paragraphs_cons (c : Char) (s : List Char) (hc : c ≠ '\n') :
    paragraphs (c :: s) = consHead c (paragraphs s) := by
  rw [paragraphs]
  intro t hnewline
  exact absurd hnewline hc

/-- A line feed in front of a line belongs to the first paragraph. -/
theorem paragraphs_newline_cons (line s : List Char) (hline : IsLine line) :
    paragraphs ('\n' :: (line ++ s)) = consHead '\n' (paragraphs (line ++ s)) := by
  obtain ⟨c, rest, rfl⟩ := List.exists_cons_of_ne_nil hline.1
  rw [paragraphs]
  intro t _ hnewline
  exact hline.2 (List.mem_cons.mpr (.inl (List.cons.inj hnewline).1.symm))

/-- A line belongs to the first paragraph. -/
theorem paragraphs_append (line s first : List Char) (rest : List (List Char)) (hline : '\n' ∉ line)
    (hs : paragraphs s = first :: rest) : paragraphs (line ++ s) = (line ++ first) :: rest := by
  induction line with
  | nil => exact hs
  | cons c line ih =>
    obtain ⟨hc, hline⟩ := not_or.mp (mt List.mem_cons.mpr hline)
    rw [List.cons_append, paragraphs_cons c _ (Ne.symm hc), ih hline]
    rfl

/-- Lines in front of a text whose first paragraph is empty are the first paragraph, when none of them
is empty. -/
theorem paragraphs_writeLines_append (lines : List (List Char)) (hlines : IsBlock lines)
    (s : List Char) (rest : List (List Char)) (hs : paragraphs s = [] :: rest) :
    paragraphs (writeLines lines ++ s) = writeLines lines :: rest := by
  obtain ⟨hne, hall⟩ := hlines
  induction lines with
  | nil => exact absurd rfl hne
  | cons line lines ih =>
    obtain ⟨hline, hrest⟩ := List.forall_mem_cons.mp hall
    cases lines with
    | nil =>
      rw [writeLines, List.intercalate_singleton, paragraphs_append line s [] rest hline.2 hs,
        List.append_nil]
    | cons next lines =>
      -- The next line is not empty, so the line feed in front of it ends no paragraph.
      have hbehind : paragraphs ('\n' :: (writeLines (next :: lines) ++ s)) =
          ('\n' :: writeLines (next :: lines)) :: rest := by
        obtain ⟨t, ht⟩ := exists_writeLines_cons next lines
        have hread := ih (List.cons_ne_nil _ _) hrest
        rw [ht, List.append_assoc] at hread ⊢
        rw [paragraphs_newline_cons next _ (List.forall_mem_cons.mp hrest).1, hread]
        rfl
      rw [writeLines_cons_cons, List.append_assoc, List.cons_append,
        paragraphs_append line _ _ rest hline.2 hbehind]

/-- Paragraphs of which no line is empty are got back by cutting at the empty lines. -/
theorem paragraphs_writeParagraphs (blocks : List (List (List Char))) (hne : blocks ≠ [])
    (hblocks : ∀ lines ∈ blocks, IsBlock lines) :
    paragraphs (writeParagraphs blocks) = blocks.map writeLines := by
  induction blocks with
  | nil => exact absurd rfl hne
  | cons lines blocks ih =>
    obtain ⟨hlines, hrest⟩ := List.forall_mem_cons.mp hblocks
    cases blocks with
    | nil =>
      have halone := paragraphs_writeLines_append lines hlines [] [] rfl
      rw [List.append_nil] at halone
      rw [writeParagraphs_singleton, halone, List.map_singleton]
    | cons next blocks =>
      have hbehind : paragraphs ('\n' :: '\n' :: writeParagraphs (next :: blocks)) =
          [] :: (next :: blocks).map writeLines := by
        rw [paragraphs, ih (List.cons_ne_nil _ _) hrest]
      rw [writeParagraphs_cons_cons, paragraphs_writeLines_append lines hlines _ _ hbehind]
      rfl

/-- Lines are got back by cutting at the line feeds. -/
theorem splitAt_writeLines (lines : List (List Char)) (hlines : IsBlock lines) :
    splitAt (· == '\n') (writeLines lines) = lines := by
  refine splitAt_intercalate _ '\n' rfl lines hlines.1 fun line hline c hc => ?_
  have hne : c ≠ '\n' := fun heq => (hlines.2 line hline).2 (heq ▸ hc)
  simpa using hne

/-- Cut at the line feeds, paragraphs have no lines but their own and the empty ones in between. -/
theorem eq_nil_or_mem_of_mem_splitAt (blocks : List (List (List Char))) (hne : blocks ≠ [])
    (hblocks : ∀ lines ∈ blocks, IsBlock lines) :
    ∀ line ∈ splitAt (· == '\n') (writeParagraphs blocks), line = [] ∨ ∃ lines ∈ blocks, line ∈ lines := by
  induction blocks with
  | nil => exact absurd rfl hne
  | cons lines blocks ih =>
    obtain ⟨hlines, hrest⟩ := List.forall_mem_cons.mp hblocks
    intro line hline
    cases blocks with
    | nil =>
      rw [writeParagraphs_singleton, splitAt_writeLines lines hlines] at hline
      exact .inr ⟨lines, List.mem_cons_self, hline⟩
    | cons next blocks =>
      rw [writeParagraphs_cons_cons, splitAt_append_separator _ _ _ _ (by rfl),
        splitAt_writeLines lines hlines] at hline
      rcases List.mem_append.mp hline with hfirst | hbehind
      · exact .inr ⟨lines, List.mem_cons_self, hfirst⟩
      · -- The second line feed ends a line that is empty.
        rcases List.mem_cons.mp hbehind with rfl | hother
        · exact .inl rfl
        · refine (ih (List.cons_ne_nil _ _) hrest line hother).imp_right ?_
          rintro ⟨others, hothers, hmem⟩
          exact ⟨others, List.mem_cons_of_mem _ hothers, hmem⟩

end Reading

end UnityBuild.Text
