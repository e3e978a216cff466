import UnityBuild.Text.Octets
import UnityBuild.Text.Split

/-!
# Paths as bytes and as components

A path is kept as it was written. The system takes any bytes for a path, so a path is a text of bytes
and need not be UTF-8. What it means is read off its components: the root of an absolute path, a
leading current directory, parent steps and names. Separators that repeat or trail, and
current-directory steps after the first place, are no components.

Where a path becomes a text, bytes that are not UTF-8 are lost.

Main statements: the components of a path are `components`, `ofComponents` writes components back as a
path by pushing one after the other, and `toSlash` spells them as a text.
-/

namespace UnityBuild

/-- A path as it was written: a text of bytes, with one character for each. -/
structure Path where
  octets : String
deriving DecidableEq, Inhabited, Repr

namespace Path

/-- The path that a text writes. -/
def ofText (s : String) : Path := ⟨Text.toOctets s⟩

/-- The text that shows a path, with a replacement character for what is not UTF-8. -/
def display (p : Path) : String := Text.ofOctets p.octets

/-- The text that writes a path, if it is UTF-8. -/
def text? (p : Path) : Option String := Text.readOctets? p.octets

/-- One step of a path. -/
inductive Component where
  | root
  | current
  | parent
  | normal (name : String)
deriving DecidableEq, Inhabited, Repr

/-- How a component is written, in bytes. -/
def Component.octets : Component → String
  | root => "/"
  | current => "."
  | parent => ".."
  | normal name => name

/-- The text that shows a component, with a replacement character for what is not UTF-8. -/
def Component.display (c : Component) : String := Text.ofOctets c.octets

/-- The step that a piece between separators stands for after the first place. -/
def innerComponent? (piece : List Char) : Option Component :=
  if piece = [] then none
  else if piece = ['.'] then none
  else if piece = ['.', '.'] then some .parent
  else some (.normal (String.ofList piece))

/-- The pieces between the separators of a text. -/
def pieces (s : List Char) : List (List Char) :=
  Text.splitAt (· == '/') s

/-- The components of a path given as characters. -/
def componentsOf (s : List Char) : List Component :=
  match s, pieces s with
  | '/' :: _, parts => .root :: parts.filterMap innerComponent?
  | _, ['.'] :: parts => .current :: parts.filterMap innerComponent?
  | _, parts => parts.filterMap innerComponent?

/-- The components of a path, in order. -/
def components (p : Path) : List Component :=
  componentsOf p.octets.toList

/-- Whether a path starts at the root. -/
def isAbsolute (p : Path) : Bool :=
  p.octets.toList.head? == some '/'

/-- Extends a text by a path: an absolute one replaces it, any other is put behind a separator,
which is written only when the text is neither empty nor ended by one. -/
def pushChars (base step : List Char) : List Char :=
  if step.head? = some '/' then step
  else if base = [] ∨ base.getLast? = some '/' then base ++ step
  else base ++ '/' :: step

/-- The path that `step` names when it is read from `base`. -/
def join (base step : Path) : Path :=
  ⟨String.ofList (pushChars base.octets.toList step.octets.toList)⟩

/-- Extends a path by one component. -/
def push (base : Path) (component : Component) : Path :=
  base.join ⟨component.octets⟩

/-- The path without steps. -/
def empty : Path := ⟨""⟩

/-- The path that stays where it is. -/
def here : Path := ⟨"."⟩

/-- Writes components as a path. -/
def ofComponents (components : List Component) : Path :=
  components.foldl push empty

/-- Components as a text, one separator between each two. -/
def spell (components : List Component) : String :=
  String.ofList (components.foldl (fun out c => pushChars out c.display.toList) [])

/-- The text of a path with one separator between components. -/
def toSlash (p : Path) : String :=
  spell p.components

/-- The path without its last step; the root and the empty path have none. -/
def parent? (p : Path) : Option Path :=
  match p.components.getLast? with
  | none => none
  | some .root => none
  | some _ => some (ofComponents p.components.dropLast)

end Path

end UnityBuild
