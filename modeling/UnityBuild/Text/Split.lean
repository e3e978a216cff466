import UnityBuild.Text.Blank

/-!
# Cutting a text into pieces

`splitAt` cuts at every separator and keeps the pieces between them, the empty ones included. Words
and lines are the two uses: words are the non-empty pieces between blanks, lines are the pieces
between line feeds without the carriage return that may stand before one.
-/

namespace UnityBuild.Text

/-- Puts a character in front of the first piece. -/
def consHead (c : Char) : List (List Char) → List (List Char)
  | [] => [[c]]
  | piece :: pieces => (c :: piece) :: pieces

/-- The pieces between the separators, in order; there is always one more than separators. -/
def splitAt (isSeparator : Char → Bool) : List Char → List (List Char)
  | [] => [[]]
  | c :: s =>
    if isSeparator c then [] :: splitAt isSeparator s else consHead c (splitAt isSeparator s)

/-- The words of a text: the maximal runs without a blank. -/
def words (s : List Char) : List (List Char) :=
  (splitAt isBlank s).filter fun word => !word.isEmpty

/-- Removes one carriage return from the end. -/
def dropReturn (line : List Char) : List Char :=
  if line.getLast? = some '\r' then line.dropLast else line

/-- Reads the pieces between line feeds as lines: every piece but the last ended in a line feed,
and an empty last piece is no line. -/
def endLines : List (List Char) → List (List Char)
  | [] => []
  | [last] => if last.isEmpty then [] else [last]
  | piece :: pieces => dropReturn piece :: endLines pieces

/-- The lines of a text; a line feed ends a line, and a final one opens no further line. A
carriage return belongs to the end of a line only in front of a line feed. -/
def lines (s : List Char) : List (List Char) :=
  endLines (splitAt (· == '\n') s)

/-- Cuts a text at the first separator; without one there is no second part. -/
def cutAt (separator : Char) : List Char → List Char × Option (List Char)
  | [] => ([], none)
  | c :: s =>
    if c = separator then ([], some s)
    else
      let (first, second) := cutAt separator s
      (c :: first, second)

/-- A text is cut into at least one piece. -/
theorem splitAt_ne_nil (isSeparator : Char → Bool) (s : List Char) :
    splitAt isSeparator s ≠ [] := by
  cases s with
  | nil => simp [splitAt]
  | cons c s =>
    simp only [splitAt]
    split
    · simp
    · cases splitAt isSeparator s <;> simp [consHead]

/-- No piece holds a separator. -/
theorem not_isSeparator_of_mem_splitAt (isSeparator : Char → Bool) (s : List Char) :
    ∀ piece ∈ splitAt isSeparator s, ∀ c ∈ piece, isSeparator c = false := by
  induction s with
  | nil => simp [splitAt]
  | cons d s ih =>
    simp only [splitAt]
    split
    · intro piece hpiece
      rcases List.mem_cons.mp hpiece with rfl | hrest
      · simp
      · exact ih piece hrest
    · rename_i hd
      cases hs : splitAt isSeparator s with
      | nil => exact absurd hs (splitAt_ne_nil isSeparator s)
      | cons first pieces =>
        rw [hs] at ih
        intro piece hpiece c hc
        rcases List.mem_cons.mp hpiece with rfl | hrest
        · rcases List.mem_cons.mp hc with rfl | hc
          · simpa using hd
          · exact ih first (by simp) c hc
        · exact ih piece (by simp [hrest]) c hc

end UnityBuild.Text
