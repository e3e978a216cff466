import UnityBuild.CompileRecord
import UnityBuild.Proofs.Path.Detours
import UnityBuild.Proofs.SkipSet

/-!
# Which files a skip list leaves out

A file is left out when a line of the list, without the blanks around it, spells it the way the
project does. Of the paths that lead to the file, all that do not turn back have this spelling:
absolute ones, those with steps that stay or lead back within the path, and those that climb out of
the project to a file elsewhere. A line that leaves a directory and enters it again leads to the file
as well, but it is kept as it is and leaves nothing out, see `detour_skips_nothing`. Lines are texts, so
this is said of files to which the way is a text.

Spelling a file once more changes nothing, whether the root is absolute or not, so the name under which
a source is reported can be put on the list as it is.

Main statements: `contains_parse_iff` and `spellings_are_canonical`.
-/

namespace UnityBuild.SkipSet

/-- The named lines are the lines that are not blank, without the blanks around them. -/
theorem mem_namedLines_iff (contents line : String) :
    line ∈ namedLines contents ↔
      ∃ full ∈ Text.lines contents.toList, Text.trim full ≠ [] ∧
        String.ofList (Text.trim full) = line := by
  simp only [namedLines, List.mem_filterMap, List.mem_map]
  constructor
  · rintro ⟨trimmed, ⟨full, hfull, rfl⟩, hline⟩
    split at hline
    · cases hline
    · rename_i hne
      exact ⟨full, hfull, fun hnil => hne (List.isEmpty_iff.mpr hnil), Option.some.inj hline⟩
  · rintro ⟨full, hfull, hne, rfl⟩
    exact ⟨_, ⟨full, hfull, rfl⟩, if_neg fun hnil => hne (List.isEmpty_iff.mp hnil)⟩

/-- A list that was read leaves out the spellings of its named lines. -/
theorem contains_parse_iff_exists_line (contents path : String) (root : Path) :
    (parse contents root).contains path = true ↔
      ∃ line ∈ namedLines contents, canonicalEntry line root = path := by
  rw [contains, List.contains_iff_mem, parse, ofList, List.mem_eraseDups, List.mem_map]

/-- The spelling of an entry and the spelling of the source of a record are their own spellings. In
general an entry is its own spelling exactly when it is a path in normal form and the entry or the root
is relative. -/
theorem spellings_are_canonical (entry : String) (root : Path) (record : CompileRecord) :
    canonicalEntry (canonicalEntry entry root) root = canonicalEntry entry root ∧
      canonicalEntry (record.relativeSource root) root = record.relativeSource root ∧
      (canonicalEntry entry root = entry ↔ (Path.ofText entry).normalize = .ofText entry ∧
        ((Path.ofText entry).isAbsolute = false ∨ root.isAbsolute = false)) := by
  refine ⟨canonicalEntry_canonicalEntry entry root, ?_, canonicalEntry_eq_self_iff entry root⟩
  rw [canonicalEntry, CompileRecord.relativeSource, Path.relativeSlash_relativeSlash]

/-- A line has the spelling of a file exactly when it leads to the file and does not turn back. -/
theorem canonicalEntry_eq_iff (line : String) (file root : Path) (hroot : root.isAbsolute = true)
    (hfile : file.isAbsolute = true) (hnormal : file.normalize = file)
    (htext : (file.relativeTo root).IsText) :
    canonicalEntry line root = file.relativeSlash root ↔
      (Path.ofText line).resolve root = file ∧ (Path.ofText line).turnsBack root = false := by
  have hline : (Path.ofText line).IsText := ⟨line, rfl⟩
  rw [canonicalEntry, Path.relativeSlash_eq_iff _ root file (hline.relativeTo root) htext,
    Path.relativeTo_eq_iff_resolve _ file root hroot hfile hnormal]

/-- A list leaves out the source of a record exactly when some line, without the blanks around it, is
not empty, leads to the source and does not turn back. -/
theorem contains_parse_iff (contents : String) (root : Path) (record : CompileRecord)
    (hroot : root.isAbsolute = true) (hdirectory : record.directory.isAbsolute = true)
    (htext : (record.sourcePath.relativeTo root).IsText) :
    (parse contents root).contains (record.relativeSource root) = true ↔
      ∃ line ∈ Text.lines contents.toList, Text.trim line ≠ [] ∧
        (Path.ofText (String.ofList (Text.trim line))).resolve root = record.sourcePath ∧
          (Path.ofText (String.ofList (Text.trim line))).turnsBack root = false := by
  have hspelled (line : String) : canonicalEntry line root = record.relativeSource root ↔ _ :=
    canonicalEntry_eq_iff line record.sourcePath root hroot
      (Path.isAbsolute_resolve record.file record.directory hdirectory)
      (Path.normalize_resolve record.file record.directory) htext
  simp only [contains_parse_iff_exists_line, mem_namedLines_iff, hspelled]
  constructor
  · rintro ⟨_, ⟨full, hfull, hne, rfl⟩, hleads⟩
    exact ⟨full, hfull, hne, hleads⟩
  · rintro ⟨full, hfull, hne, hleads⟩
    exact ⟨_, ⟨full, hfull, hne, rfl⟩, hleads⟩

/-- A file outside the project is left out by a line that climbs to it with a detour in between. -/
theorem climbing_line_skips_file :
    let record : CompileRecord := ⟨⟨"/build/out"⟩, ⟨"../../lib/./b.c"⟩, none, some "cc", none⟩
    Path.isAbsolute ⟨"/proj//src/"⟩ = true ∧ record.directory.isAbsolute = true ∧
      (parse "a.c\r\n\n  ../x/../../lib/b.c \n" ⟨"/proj//src/"⟩).contains
        (record.relativeSource ⟨"/proj//src/"⟩) = true := by
  intro record
  have htext : record.sourcePath.IsText := ⟨"/lib/b.c", by decide +kernel⟩
  refine ⟨by decide, by decide, ?_⟩
  refine (contains_parse_iff _ _ record (by decide) (by decide) (htext.relativeTo _)).mpr
    ⟨"  ../x/../../lib/b.c ".toList, by decide +kernel, by decide, ?_, ?_⟩
  · decide +kernel
  · decide +kernel

/-- A line that leaves the project and enters it again leads to the source of a record and does not
leave it out. -/
theorem detour_skips_nothing :
    let record : CompileRecord := ⟨⟨"/proj"⟩, ⟨"a.c"⟩, none, some "cc", none⟩
    (∃ line ∈ Text.lines "../proj/a.c".toList, Text.trim line ≠ [] ∧
        (Path.ofText (String.ofList (Text.trim line))).resolve ⟨"/proj"⟩ = record.sourcePath) ∧
      (parse "../proj/a.c" ⟨"/proj"⟩).contains (record.relativeSource ⟨"/proj"⟩) = false := by
  intro record
  constructor
  · exact ⟨"../proj/a.c".toList, by decide +kernel, by decide +kernel, by decide +kernel⟩
  · decide +kernel

end UnityBuild.SkipSet
