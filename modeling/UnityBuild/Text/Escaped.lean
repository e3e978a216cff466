/-!
# Backslash-quote pairs

Build systems hand over text in which a double quote is written as a backslash and a quote.
`unescapeQuotes` reads such pairs from left to right and keeps every other character, also a
backslash in front of anything else. `escapeQuotes` writes a backslash in front of every quote.
-/

namespace UnityBuild.Text

/-- Replaces every backslash-quote pair by the quote alone. -/
def unescapeQuotes : List Char → List Char
  | [] => []
  | '\\' :: '"' :: s => '"' :: unescapeQuotes s
  | c :: s => c :: unescapeQuotes s

/-- Writes a backslash in front of every double quote. -/
def escapeQuotes : List Char → List Char
  | [] => []
  | c :: s => if c = '"' then '\\' :: '"' :: escapeQuotes s else c :: escapeQuotes s

/-- The text version of `unescapeQuotes`. -/
def unescapeQuotesText (s : String) : String :=
  String.ofList (unescapeQuotes s.toList)

end UnityBuild.Text
