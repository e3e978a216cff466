import UnityBuild.Proofs.Naming

/-!
# When a qualified name is an identifier

The name of a file keeps the word characters of its path, letters and digits of all scripts among
them, and starts with the first of them when the path does. An identifier of C holds letters and
digits of ASCII alone and starts with no digit. So an identifier that is qualified by the name of a
file is an identifier again exactly when the path has no other letters and digits and starts with no
digit.

Main statement: `isIdentifier_qualify_pathIdentifier_iff`.
-/

namespace UnityBuild.Naming

/-- All letters and digits of a path are those of ASCII. -/
def HasPlainWords (path : String) : Prop :=
  ∀ c ∈ path.toList, Text.isWordChar c = true → c.toNat < 0x80

/-- A path whose first character is a digit of ASCII. -/
def StartsWithDigit (path : String) : Prop :=
  ∃ c, path.toList.head? = some c ∧ c.isDigit = true

instance (path : String) : Decidable (HasPlainWords path) :=
  List.decidableBAll _ path.toList

instance (path : String) : Decidable (StartsWithDigit path) :=
  decidable_of_iff (path.toList.head?.any Char.isDigit = true) (by
    rw [StartsWithDigit, Option.any_eq_true])

section Characters

variable (c : Char)

/-- The characters of identifiers are the word characters of ASCII. -/
theorem isIdentifierRest_iff :
    isIdentifierRest c = true ↔ Text.isWordChar c = true ∧ c.toNat < 0x80 := by
  have hascii (h : c.toNat < 0x80) : Text.isWordChar c = isIdentifierRest c := by
    rw [Text.isWordChar, Text.isAlphanumeric, if_pos h, Text.isAsciiAlphanumeric, isIdentifierRest,
      isIdentifierStart, Bool.or_right_comm]
  constructor
  · intro h
    have hbound := Nat.lt_of_le_of_lt (toNat_of_isIdentifierRest c h).2 (by decide : 'z'.toNat < 0x80)
    exact ⟨hascii hbound ▸ h, hbound⟩
  · rintro ⟨h, hbound⟩
    exact hascii hbound ▸ h

/-- Identifiers start with any of their characters but a digit. -/
theorem isIdentifierStart_iff :
    isIdentifierStart c = true ↔ isIdentifierRest c = true ∧ c.isDigit = false := by
  have halpha (h : c.isAlpha = true) : c.isDigit = false := by
    -- The digits come before the letters.
    have hletter : 'A'.val ≤ c.val := by
      rcases Bool.or_eq_true_iff.mp h with hupper | hlower
      · exact (of_decide_eq_true hupper).1
      · exact UInt32.le_trans (by decide) (of_decide_eq_true (Bool.and_eq_true_iff.mp hlower).1)
    refine Bool.eq_false_iff.mpr fun hdigit => ?_
    have hbound : c.val ≤ '9'.val := of_decide_eq_true (Bool.and_eq_true_iff.mp hdigit).2
    exact absurd (UInt32.le_trans hletter hbound) (by decide)
  rw [isIdentifierRest, isIdentifierStart]
  constructor
  · intro h
    refine ⟨Bool.or_eq_true_iff.mpr (.inl h), ?_⟩
    rcases Bool.or_eq_true_iff.mp h with h | h
    · exact halpha h
    · rw [beq_iff_eq.mp h]
      rfl
  · rintro ⟨h, hdigit⟩
    rwa [hdigit, Bool.or_false] at h

end Characters

/-- The characters of a collapsed path can stand in an identifier when the path's letters and digits
are those of ASCII. -/
theorem all_collapseRuns_iff (inRun : Bool) (s : List Char) :
    (collapseRuns inRun s).all isIdentifierRest = true ↔
      ∀ c ∈ s, Text.isWordChar c = true → c.toNat < 0x80 := by
  have hunderscore : isIdentifierRest '_' = true := by decide
  fun_induction collapseRuns inRun s with
  | case1 => simp
  | case2 inRun c s hword ih =>
    simp only [List.all_cons, Bool.and_eq_true, ih, isIdentifierRest_iff, List.forall_mem_cons, hword,
      true_and, forall_const]
  | case3 c s hword ih => simp [ih, hword]
  | case4 inRun c s hword hrun ih => simp [ih, hword, hunderscore]

/-- The name of a file is empty or an identifier exactly when the letters and digits of its path are
those of ASCII and the path starts with no digit. -/
theorem isIdentifier_pathIdentifier_iff (path : String) :
    (pathIdentifier path = "" ∨ isIdentifier (pathIdentifier path) = true) ↔
      HasPlainWords path ∧ ¬ StartsWithDigit path := by
  rw [pathIdentifier, isIdentifier, String.ofList_eq_empty_iff, String.toList_ofList, HasPlainWords,
    StartsWithDigit, ← all_collapseRuns_iff false]
  cases path.toList with
  | nil => simp [collapseRuns]
  | cons c s =>
    rw [collapseRuns]
    split
    · rename_i hword
      simp [isIdentifierChars, isIdentifierStart_iff, and_assoc, and_comm]
    · rename_i hword
      -- A digit would be a word character.
      have hdigit : c.isDigit = false := by
        by_contra hdigit
        have hrest : isIdentifierRest c = true :=
          Bool.or_eq_true_iff.mpr (.inr (Bool.not_eq_false _ ▸ hdigit))
        exact hword ((isIdentifierRest_iff c).mp hrest).1
      have hunderscore : isIdentifierStart '_' = true ∧ isIdentifierRest '_' = true := by decide
      simp [isIdentifierChars, hdigit, hunderscore]

/-- An identifier that is qualified by the name of a file is an identifier exactly when the name is
empty or an identifier itself. -/
theorem isIdentifier_qualify_iff (fileName identifier : String)
    (hidentifier : isIdentifier identifier = true) :
    isIdentifier (qualify fileName identifier) = true ↔
      fileName = "" ∨ isIdentifier fileName = true := by
  have hbehind : ('_' :: '_' :: identifier.toList).all isIdentifierRest = true :=
    List.all_eq_true.mpr (List.forall_mem_cons.mpr ⟨by decide, List.forall_mem_cons.mpr
      ⟨by decide, isIdentifierRest_of_mem _ hidentifier⟩⟩)
  rw [isIdentifier, toList_qualify, ← String.toList_eq_nil_iff, isIdentifier]
  by_cases hempty : fileName.toList = []
  · rw [hempty, List.nil_append]
    have hstart : isIdentifierStart '_' = true := by decide
    simpa [isIdentifierChars, hstart] using hbehind
  · rw [isIdentifierChars_append _ _ hempty, hbehind, Bool.and_true, or_iff_right hempty]

/-- An identifier that is qualified by the name of a file is an identifier exactly when the letters and
digits of the path are those of ASCII and the path starts with no digit. -/
theorem isIdentifier_qualify_pathIdentifier_iff (path identifier : String)
    (hidentifier : isIdentifier identifier = true) :
    isIdentifier (qualify (pathIdentifier path) identifier) = true ↔
      HasPlainWords path ∧ ¬ StartsWithDigit path := by
  rw [isIdentifier_qualify_iff _ identifier hidentifier, isIdentifier_pathIdentifier_iff]

end UnityBuild.Naming
