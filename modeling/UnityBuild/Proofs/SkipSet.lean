import UnityBuild.Proofs.Lists
import UnityBuild.Proofs.Path.Spelling
import UnityBuild.Proofs.Text.Front
import UnityBuild.SkipSet

/-!
# Skip lists as texts

A skip list is written with one line for each of its files. The spelling of a file has no line feed
and is not changed by being brought to the known spelling once more, so reading the text gives the
list again, as long as no spelling starts or ends in a blank: blanks around a line do not count.

Main statements: `parse_fileContents_iff` and `parse_fileContents_parse`.
-/

namespace UnityBuild

namespace Text

/-- A text in which a line feed ends every line is cut into the lines and an empty piece. -/
theorem splitAt_flatMap (lines : List (List Char)) (h : ∀ line ∈ lines, '\n' ∉ line) :
    splitAt (· == '\n') (lines.flatMap fun line => line ++ ['\n']) = lines ++ [[]] := by
  induction lines with
  | nil => rfl
  | cons line lines ih =>
    obtain ⟨hline, hlines⟩ := List.forall_mem_cons.mp h
    have hone : splitAt (· == '\n') line = [line] := by
      apply splitAt_eq_singleton
      intro c hc
      have hne : c ≠ '\n' := fun heq => hline (heq ▸ hc)
      simpa using hne
    rw [List.flatMap_cons, List.append_assoc, List.singleton_append,
      splitAt_append_separator _ _ _ _ (by rfl), hone, ih hlines]
    rfl

/-- A text in which a line feed ends every line has these lines, without the carriage returns that
end them. -/
theorem lines_flatMap (lines : List (List Char)) (h : ∀ line ∈ lines, '\n' ∉ line) :
    Text.lines (lines.flatMap fun line => line ++ ['\n']) = lines.map dropReturn := by
  rw [Text.lines, splitAt_flatMap lines h]
  clear h
  induction lines with
  | nil => rfl
  | cons line lines ih =>
    obtain ⟨next, rest, hrest⟩ : ∃ next rest, lines ++ [[]] = next :: rest :=
      List.exists_cons_of_ne_nil (List.append_ne_nil_of_right_ne_nil _ (List.cons_ne_nil _ _))
    rw [List.cons_append, hrest, endLines, ← hrest, ih, List.map_cons]
    exact List.cons_ne_nil _ _

/-- No line has a line feed. -/
theorem newline_notMem_of_mem_lines (s : List Char) : ∀ line ∈ Text.lines s, '\n' ∉ line := by
  have hpieces : ∀ piece ∈ splitAt (· == '\n') s, '\n' ∉ piece := by
    intro piece hpiece hmem
    have hfalse := not_isSeparator_of_mem_splitAt _ s piece hpiece '\n' hmem
    simp at hfalse
  rw [Text.lines]
  generalize splitAt (· == '\n') s = pieces at hpieces
  induction pieces with
  | nil => exact fun line hline => absurd hline List.not_mem_nil
  | cons piece pieces ih =>
    obtain ⟨hpiece, hrest⟩ := List.forall_mem_cons.mp hpieces
    intro line hline
    cases pieces with
    | nil =>
      rw [endLines] at hline
      split at hline
      · cases hline
      · rwa [List.mem_singleton.mp hline]
    | cons next pieces =>
      rcases List.mem_cons.mp hline with rfl | hlater
      · unfold dropReturn
        split
        · exact fun hmem => hpiece ((List.dropLast_sublist piece).subset hmem)
        · exact hpiece
      · exact ih hrest line hlater

/-- Trimming only takes characters away. -/
theorem mem_of_mem_trim (s : List Char) (c : Char) (hc : c ∈ trim s) : c ∈ s := by
  unfold trim trimEnd trimStart at hc
  have hend := (List.dropWhile_sublist isBlank).subset (List.mem_reverse.mp hc)
  exact (List.dropWhile_sublist isBlank).subset (List.mem_reverse.mp hend)

/-- A carriage return at the end does not outlast trimming. -/
theorem trim_dropReturn (s : List Char) : trim (dropReturn s) = trim s := by
  unfold dropReturn
  split
  · rename_i hreturn
    obtain ⟨front, rfl⟩ := List.getLast?_eq_some_iff.mp hreturn
    rw [List.dropLast_concat, trim_append_blanks front ['\r'] (by decide)]
  · rfl

end Text

namespace SkipSet

/-- The text of a list of files has a line for each of them. -/
theorem toList_fileContents (s : SkipSet) (h : ∀ entry ∈ s.entries, entry ≠ "") :
    s.fileContents.toList = (s.entries.map String.toList).flatMap fun line => line ++ ['\n'] := by
  have hjoin (first : String) (rest : List String) :
      (String.intercalate "\n" (first :: rest)).toList ++ ['\n'] =
        ((first :: rest).map String.toList).flatMap fun line => line ++ ['\n'] := by
    induction rest generalizing first with
    | nil => simp
    | cons next rest ih =>
      rw [String.intercalate_cons_cons, String.toList_append, String.toList_append, List.append_assoc,
        ih next, List.map_cons, List.flatMap_cons]
      rfl
  unfold fileContents
  cases hentries : s.entries with
  | nil => rfl
  | cons first rest =>
    have hfirst : first ≠ "" := h first (hentries ▸ List.mem_cons_self)
    have hne : String.intercalate "\n" (first :: rest) ≠ "" := by
      intro hempty
      have hchars := hjoin first rest
      rw [hempty, List.map_cons, List.flatMap_cons] at hchars
      have hlength := congrArg List.length hchars
      have hpos : 0 < first.toList.length :=
        List.length_pos_iff.mpr fun hnil => hfirst (String.toList_eq_nil_iff.mp hnil)
      simp only [String.toList_empty, List.nil_append, List.length_append, List.length_singleton]
        at hlength
      omega
    dsimp only
    rw [if_neg hne, String.toList_append, ← hjoin first rest]
    rfl

/-- The lines of a text of files name the files, without the blanks around them. -/
theorem namedLines_fileContents (s : SkipSet) (hne : ∀ entry ∈ s.entries, entry ≠ "")
    (hline : ∀ entry ∈ s.entries, '\n' ∉ entry.toList) :
    namedLines s.fileContents = s.entries.filterMap fun entry =>
      if Text.trim entry.toList = [] then none else some (String.ofList (Text.trim entry.toList)) := by
  rw [namedLines, s.toList_fileContents hne,
    Text.lines_flatMap _ (List.forall_mem_map.mpr hline), List.map_map, List.map_map,
    List.filterMap_map]
  refine List.filterMap_congr fun entry _ => ?_
  simp only [Function.comp_apply, Text.trim_dropReturn, List.isEmpty_iff]

/-- A list is read back from its text exactly when every file, without the blanks around it, is still
named and has the file as its spelling. -/
theorem parse_fileContents_iff (s : SkipSet) (root : Path) (hne : ∀ entry ∈ s.entries, entry ≠ "")
    (hline : ∀ entry ∈ s.entries, '\n' ∉ entry.toList) (hnodup : s.entries.Nodup) :
    parse s.fileContents root = s ↔ ∀ entry ∈ s.entries, Text.trim entry.toList ≠ [] ∧
      canonicalEntry (String.ofList (Text.trim entry.toList)) root = entry := by
  rw [parse, ofList, namedLines_fileContents s hne hline, List.map_filterMap, SkipSet.mk.injEq,
    Lists.eraseDups_filterMap_eq_self_iff _ _ hnodup]
  refine forall₂_congr fun entry _ => ?_
  by_cases htrim : Text.trim entry.toList = []
  · simp [htrim]
  · simp [htrim]

/-- The spelling of an entry is known already. -/
theorem canonicalEntry_canonicalEntry (entry : String) (root : Path) :
    canonicalEntry (canonicalEntry entry root) root = canonicalEntry entry root := by
  rw [canonicalEntry, canonicalEntry, Path.relativeSlash_relativeSlash]

/-- What is read from the spelling of an entry is the way to it. -/
theorem ofText_canonicalEntry (entry : String) (root : Path) :
    Path.ofText (canonicalEntry entry root) = (Path.ofText entry).relativeTo root := by
  have htext : (Path.ofText entry).IsText := ⟨entry, rfl⟩
  rw [canonicalEntry, Path.ofText_relativeSlash_of_isText _ root (htext.relativeTo root)]

/-- The entries that are their own spellings are the paths in normal form, absolute ones only when the
root is relative. -/
theorem canonicalEntry_eq_self_iff (entry : String) (root : Path) :
    canonicalEntry entry root = entry ↔
      (Path.ofText entry).normalize = .ofText entry ∧
        ((Path.ofText entry).isAbsolute = false ∨ root.isAbsolute = false) := by
  rw [← Path.ofText_inj, ofText_canonicalEntry, Path.relativeTo_eq_self_iff]

/-- Every file of a list that was read is the known spelling of a line. -/
theorem exists_of_mem_parse (contents : String) (root : Path) (entry : String)
    (h : entry ∈ (parse contents root).entries) :
    ∃ line ∈ namedLines contents, canonicalEntry line root = entry :=
  List.mem_map.mp (List.mem_eraseDups.mp h)

/-- A named line has no line feed. -/
theorem newline_notMem_of_mem_namedLines (contents : String) :
    ∀ line ∈ namedLines contents, '\n' ∉ line.toList := by
  intro line hline hmem
  obtain ⟨trimmed, htrimmed, hnamed⟩ := List.mem_filterMap.mp hline
  obtain ⟨full, hfull, rfl⟩ := List.mem_map.mp htrimmed
  split at hnamed
  · cases hnamed
  · cases hnamed
    rw [String.toList_ofList] at hmem
    exact Text.newline_notMem_of_mem_lines _ full hfull (Text.mem_of_mem_trim full '\n' hmem)

/-- No file of a list that was read has a line feed. -/
theorem newline_notMem_of_mem_parse (contents : String) (root : Path) (entry : String)
    (h : entry ∈ (parse contents root).entries) : '\n' ∉ entry.toList := by
  intro hmem
  obtain ⟨line, hline, rfl⟩ := exists_of_mem_parse contents root entry h
  exact newline_notMem_of_mem_namedLines contents line hline
    (Path.mem_of_mem_relativeSlash '\n' (by decide) (by decide) line root hmem)

/-- A list that was read is read back from its text, unless the spelling of a file starts or ends
in a blank. -/
theorem parse_fileContents_parse (contents : String) (root : Path)
    (htrim : ∀ entry ∈ (parse contents root).entries, Text.trim entry.toList = entry.toList) :
    parse (parse contents root).fileContents root = parse contents root := by
  have hne : ∀ entry ∈ (parse contents root).entries, entry ≠ "" := by
    intro entry hentry
    obtain ⟨line, -, rfl⟩ := exists_of_mem_parse contents root entry hentry
    exact Path.relativeSlash_ne_empty (.ofText line) root
  refine (parse_fileContents_iff _ root hne (newline_notMem_of_mem_parse contents root)
    (Lists.nodup_eraseDups _)).mpr fun entry hentry => ?_
  rw [htrim entry hentry, String.ofList_toList]
  refine ⟨fun hnil => hne entry hentry (String.toList_eq_nil_iff.mp hnil), ?_⟩
  obtain ⟨line, -, rfl⟩ := exists_of_mem_parse contents root entry hentry
  exact canonicalEntry_canonicalEntry line root

end SkipSet

end UnityBuild
