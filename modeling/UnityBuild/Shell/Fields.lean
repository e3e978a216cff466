import UnityBuild.Shell.Pattern

/-!
# Fields

The parts of a word are replaced by pieces of text, and the pieces are put together to fields. The
values of parameters that are not quoted are loose: they are split at separators. Blank separators
count once however many there are; any other separator ends a field, even an empty one.
-/

namespace UnityBuild.Shell

/-- A piece of what a word stands for. -/
inductive Piece where
  | fixed (text : String) (quoted : Bool)
  | loose (text : String)
  | endField
deriving DecidableEq, Repr

/-- A piece inside of a parameter that is not quoted; what is not quoted in it is split. -/
def Piece.loosen : Piece → Piece
  | fixed text false => loose text
  | piece => piece

/-- A field: texts, each quoted or not. -/
abbrev Field := List (String × Bool)

namespace Field

/-- The text of a field. -/
def text (f : Field) : String :=
  f.foldl (fun s chunk => s ++ chunk.1) ""

/-- The characters of a field as those of a pattern. -/
def pattern (f : Field) : List PatternChar :=
  f.flatMap fun chunk => chunk.1.toList.map fun c => ⟨c, chunk.2⟩

/-- Whether a field may stand for several paths. -/
def hasSigns (f : Field) : Bool :=
  f.any fun chunk => !chunk.2 && chunk.1.toList.any fun c => c == '*' || c == '?' || c == '['

end Field

/-- The fields that are made so far, the last first, the one that is being made with its last text
first, and whether blanks ended the last one. -/
structure FieldBuilder where
  done : List Field := []
  current : Option Field := none
  afterBlank : Bool := false

namespace FieldBuilder

/-- Adds text to the field that is being made. -/
def append (b : FieldBuilder) (text : String) (quoted : Bool) : FieldBuilder :=
  { b with current := some ((text, quoted) :: b.current.getD []), afterBlank := false }

/-- Ends the field that is being made. -/
def finish (b : FieldBuilder) : FieldBuilder :=
  match b.current with
  | some field => { b with done := field.reverse :: b.done, current := none }
  | none => b

/-- Adds characters that were collected, the last first. -/
def appendChars (b : FieldBuilder) (chars : List Char) : FieldBuilder :=
  if chars.isEmpty then b else b.append (String.ofList chars.reverse) false

/-- Ends a field at a separator. -/
def separate (b : FieldBuilder) (blank : Bool) : FieldBuilder :=
  match b.current with
  | some _ => { b.finish with afterBlank := blank }
  | none =>
    if blank then b
    else if b.afterBlank then { b with afterBlank := false }
    else { b with done := [] :: b.done }

/-- Adds loose text; `chars` are the characters since the last separator, the last first. -/
def appendLoose (separators : List Char) : FieldBuilder → List Char → List Char → FieldBuilder
  | b, chars, [] => b.appendChars chars
  | b, chars, c :: s =>
    if separators.contains c then
      let blank := c == ' ' || c == '\t' || c == '\n'
      appendLoose separators ((b.appendChars chars).separate blank) [] s
    else appendLoose separators b (c :: chars) s

/-- Adds a piece. -/
def add (separators : List Char) (b : FieldBuilder) : Piece → FieldBuilder
  | .fixed text quoted => if text.isEmpty && !quoted then b else b.append text quoted
  | .loose text => appendLoose separators b [] text.toList
  | .endField => b.finish

end FieldBuilder

/-- The fields that pieces are put together to. -/
def fieldsOf (separators : String) (pieces : List Piece) : List Field :=
  (pieces.foldl (FieldBuilder.add separators.toList) {}).finish.done.reverse

/-- The one text of pieces. -/
def textOf (joint : String) (pieces : List Piece) : String :=
  pieces.foldl (fun s piece =>
    match piece with
    | .fixed text _ => s ++ text
    | .loose text => s ++ text
    | .endField => s ++ joint) ""

/-- The pattern of pieces. -/
def patternOfPieces (joint : String) (pieces : List Piece) : Pattern :=
  Pattern.read (pieces.flatMap fun
    | .fixed text quoted => text.toList.map fun c => ⟨c, quoted⟩
    | .loose text => text.toList.map fun c => ⟨c, false⟩
    | .endField => joint.toList.map fun c => ⟨c, false⟩)

end UnityBuild.Shell
