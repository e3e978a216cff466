import Mathlib.Logic.Function.Iterate
import UnityBuild.Proofs.SkipSet

/-!
# Reading a saved list again

A list that was read and saved is read again as itself exactly when no spelling in it starts or ends
in a blank, and then saving and reading it any number of times changes nothing. Any other spelling is
lost: a list is written without quotes, so the next reading drops the blank and names another file, see
`blank_in_front_is_lost`.

Main statement: `reread_parse_iff`.
-/

namespace UnityBuild.SkipSet

/-- What is read from the text that a list is saved as. -/
def reread (root : Path) (s : SkipSet) : SkipSet :=
  parse s.fileContents root

/-- A file of a list that was read has a spelling, and it is the file itself. -/
theorem canonicalEntry_of_mem_parse (contents : String) (root : Path) (entry : String)
    (h : entry ∈ (parse contents root).entries) :
    entry ≠ "" ∧ canonicalEntry entry root = entry := by
  obtain ⟨line, -, rfl⟩ := exists_of_mem_parse contents root entry h
  refine ⟨fun hempty => ?_, canonicalEntry_canonicalEntry line root⟩
  have hagain := canonicalEntry_canonicalEntry line root
  rw [hempty] at hagain
  exact absurd ((canonicalEntry_eq_self_iff "" root).mp hagain).1 (by decide)

/-- A spelling has no more blanks than the file that it spells. -/
theorem countP_isBlank_canonicalEntry_le (entry : String) (root : Path) :
    (canonicalEntry entry root).toList.countP Text.isBlank ≤ entry.toList.countP Text.isBlank :=
  Path.countP_relativeSlash_le Text.isBlank (by decide) (by decide) entry root

/-- A list that was read is read again from the text that it is saved as, once or any number of times,
exactly when no spelling in it starts or ends in a blank. -/
theorem reread_parse_iff (contents : String) (root : Path) :
    (reread root (parse contents root) = parse contents root ↔
        ∀ entry ∈ (parse contents root).entries, Text.trim entry.toList = entry.toList) ∧
      ((∀ times, (reread root)^[times] (parse contents root) = parse contents root) ↔
        ∀ entry ∈ (parse contents root).entries, Text.trim entry.toList = entry.toList) := by
  have hknown := canonicalEntry_of_mem_parse contents root
  have honce : reread root (parse contents root) = parse contents root ↔
      ∀ entry ∈ (parse contents root).entries, Text.trim entry.toList = entry.toList := by
    rw [reread, parse_fileContents_iff _ root (fun entry hentry => (hknown entry hentry).1)
      (newline_notMem_of_mem_parse contents root) (Lists.nodup_eraseDups _)]
    refine forall₂_congr fun entry hentry => ?_
    obtain ⟨hne, hself⟩ := hknown entry hentry
    constructor
    · rintro ⟨-, hspelled⟩
      -- The spelling of what trimming leaves has no blanks that were not left.
      have hblanks := countP_isBlank_canonicalEntry_le (String.ofList (Text.trim entry.toList)) root
      rw [hspelled, String.toList_ofList] at hblanks
      exact Text.trim_eq_of_countP_le entry.toList hblanks
    · intro htrim
      rw [htrim, String.ofList_toList]
      exact ⟨fun hnil => hne (String.toList_eq_nil_iff.mp hnil), hself⟩
  refine ⟨honce, fun hall => honce.mp (hall 1), fun htrim times => ?_⟩
  exact Function.iterate_fixed (honce.mpr htrim) times

/-- A file whose name starts with a blank is left out by the list that was read and not by the list that
was saved. -/
theorem blank_in_front_is_lost :
    (parse "/proj/ a.c\n" ⟨"/proj"⟩).entries = [" a.c"] ∧
      (parse "/proj/ a.c\n" ⟨"/proj"⟩).fileContents = " a.c\n" ∧
      (reread ⟨"/proj"⟩ (parse "/proj/ a.c\n" ⟨"/proj"⟩)).entries = ["a.c"] := by
  refine ⟨?_, ?_, ?_⟩
  all_goals decide +kernel

end UnityBuild.SkipSet
