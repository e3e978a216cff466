import UnityBuild.Text.Ranges

/-!
# Blank characters

Blanks are the characters with the Unicode property `White_Space`. Trimming removes them from
both ends of a text and nothing else.
-/

namespace UnityBuild.Text

/-- The ranges of the property `White_Space`. -/
def blankRanges : List CodeRange :=
  [(0x09, 0x0D), (0x20, 0x20), (0x85, 0x85), (0xA0, 0xA0), (0x1680, 0x1680), (0x2000, 0x200A),
    (0x2028, 0x2029), (0x202F, 0x202F), (0x205F, 0x205F), (0x3000, 0x3000)]

/-- A blank separates words and is dropped at both ends of a trimmed text. -/
def isBlank (c : Char) : Bool :=
  inRanges blankRanges c

/-- Drops the blanks at the start. -/
def trimStart (s : List Char) : List Char :=
  s.dropWhile isBlank

/-- Drops the blanks at the end. -/
def trimEnd (s : List Char) : List Char :=
  (s.reverse.dropWhile isBlank).reverse

/-- Drops the blanks at both ends. -/
def trim (s : List Char) : List Char :=
  trimEnd (trimStart s)

/-- Whether a text holds nothing but blanks. -/
def isAllBlank (s : List Char) : Bool :=
  s.all isBlank

end UnityBuild.Text
