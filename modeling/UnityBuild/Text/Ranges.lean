/-!
# Character classes as ranges of code points

A character property of the Unicode standard is given as a list of closed ranges of code
points. Membership is decided by the ranges alone, so a table can be read, printed and compared
without running anything else.
-/

namespace UnityBuild.Text

/-- A closed range of code points, lowest first. -/
abbrev CodeRange := Nat × Nat

/-- A character is in a table when one of the ranges holds its code point. -/
def inRanges (ranges : List CodeRange) (c : Char) : Bool :=
  ranges.any fun range => range.1 ≤ c.toNat && c.toNat ≤ range.2

/-- Membership says that some listed range holds the code point. -/
theorem inRanges_iff (ranges : List CodeRange) (c : Char) :
    inRanges ranges c = true ↔ ∃ range ∈ ranges, range.1 ≤ c.toNat ∧ c.toNat ≤ range.2 := by
  simp [inRanges]

end UnityBuild.Text
