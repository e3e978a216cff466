import UnityBuild.Diagnostic.Basic
import UnityBuild.Json.Reader
import UnityBuild.Text.Blank
import UnityBuild.Text.Quoted

/-!
# Reading diagnostics

The compiler writes its diagnostics as one JSON list, and may write other text behind it. Only the
list is read, straight into diagnostics: fields that are not known are passed over, a known field
may stand once, and an object may also be written as the list of its fields in order, of which
the last may be missing when they have a default.

Main definition: `Diagnostic.parse`.
-/

namespace UnityBuild

open Text (Reader mapReader after?)

namespace Json

/-- Opens a list if the depth allows it; the items get the depth that is left. -/
def readListAt? {α : Type} (depth : Nat) (item : Nat → Reader α) : Reader (List α) := fun s =>
  match skipSpace s, depth with
  | '[' :: s, depth + 1 => readMembers? ']' (item depth) s
  | _, _ => none

/-- Reads the further fields of an object that is written as a list; the closing bracket may come
before all slots are used. -/
def readSlots? {α : Type} : List (Reader α) → Reader (List α)
  | [], s =>
    match skipSpace s with
    | ']' :: s => some ([], s)
    | _ => none
  | slot :: slots, s =>
    match skipSpace s with
    | ']' :: s => some ([], s)
    | ',' :: s => do
      let (first, s) ← slot s
      let (others, s) ← readSlots? slots s
      return (first :: others, s)
    | _ => none

/-- Reads the fields of an object that is written as a list, behind the opening bracket. -/
def readTuple? {α : Type} : List (Reader α) → Reader (List α)
  | [], s => readSlots? [] s
  | slot :: slots, s =>
    match skipSpace s with
    | ']' :: s => some ([], s)
    | s => do
      let (first, s) ← slot s
      let (others, s) ← readSlots? slots s
      return (first :: others, s)

/-- Reads the fields of an object, written with names or as a list in order, if the depth allows
to open it. -/
def readFieldsAt? {α : Type} (depth : Nat) (named : Nat → String → Reader α)
    (slots : Nat → List (Reader α)) : Reader (List α) := fun s =>
  match skipSpace s, depth with
  | '{' :: s, depth + 1 => readMembers? '}' (readField? (named depth)) s
  | '[' :: s, depth + 1 => readTuple? (slots depth) s
  | _, _ => none

/-- Reads a null as nothing and any other value by a reader. -/
def readNullable? {α : Type} (value : Reader α) : Reader (Option α) := fun s =>
  match skipSpace s with
  | 'n' :: s => (after? ['u', 'l', 'l'] s).map fun rest => (none, rest)
  | s => (value s).map fun (result, rest) => (some result, rest)

/-- Reads a whole number that is at most `max`, written with digits alone. -/
def readNatural? (max : Nat) : Reader Nat := fun s => do
  let (literal, rest) ← Literal.read? (skipSpace s)
  match literal.value? with
  | some (.integer (.ofNat n)) => if n ≤ max then some (n, rest) else none
  | _ => none

end Json

namespace Diagnostic

open Json

/-- The value of a field that may stand once. -/
def atMostOne? {α : Type} : List α → Option (Option α)
  | [] => some none
  | [value] => some (some value)
  | _ => none

/-- The value of a field that must stand once. -/
def exactlyOne? {α : Type} : List α → Option α
  | [value] => some value
  | _ => none

/-- A field of a position. -/
inductive PositionField where
  | file (value : String)
  | line (value : Nat)
  | column (value : Nat)
  | other

/-- Puts the fields of a position together. -/
def assemblePosition? (fields : List PositionField) : Option Position := do
  let file ← exactlyOne? (fields.filterMap fun | .file value => some value | _ => none)
  let line ← atMostOne? (fields.filterMap fun | .line value => some value | _ => none)
  let column ← atMostOne? (fields.filterMap fun | .column value => some value | _ => none)
  return ⟨.ofText file, line.getD 0, column.getD 0⟩

/-- The largest line or column. -/
def maxCoordinate : Nat := 0xFFFFFFFF

/-- Passes over a field that is not known. -/
def skipField {α : Type} (other : α) : Reader α :=
  mapReader (fun _ => other) (unitReader skipValue?)

/-- Reads a position. -/
def readPosition? (depth : Nat) : Reader Position := fun s => do
  let file := mapReader PositionField.file readString?
  let line := mapReader PositionField.line (readNatural? maxCoordinate)
  let column := mapReader PositionField.column (readNatural? maxCoordinate)
  let (fields, rest) ← readFieldsAt? depth
    (fun _ name =>
      if name = "file" then file
      else if name = "line" then line
      else if name = "column" then column
      else skipField .other)
    (fun _ => [file, line, column]) s
  let position ← assemblePosition? fields
  return (position, rest)

/-- A field of a location. -/
inductive LocationField where
  | caret (value : Option Position)
  | other

/-- Reads a location. -/
def readLocation? (depth : Nat) : Reader SourceLocation := fun s => do
  let caret (depth : Nat) := mapReader LocationField.caret (readNullable? (readPosition? depth))
  let (fields, rest) ← readFieldsAt? depth
    (fun depth name => if name = "caret" then caret depth else skipField .other)
    (fun depth => [caret depth]) s
  let caret ← atMostOne? (fields.filterMap fun | .caret value => some value | .other => none)
  return (⟨caret.getD none⟩, rest)

/-- A field of a diagnostic. -/
inductive Field where
  | kind (value : String)
  | message (value : String)
  | locations (value : List SourceLocation)
  | children (value : List Diagnostic)
  | other

/-- Puts the fields of a diagnostic together. -/
def assemble? (fields : List Field) : Option Diagnostic := do
  let kind ← atMostOne? (fields.filterMap fun | .kind value => some value | _ => none)
  let message ← exactlyOne? (fields.filterMap fun | .message value => some value | _ => none)
  let locations ← atMostOne? (fields.filterMap fun | .locations value => some value | _ => none)
  let children ← atMostOne? (fields.filterMap fun | .children value => some value | _ => none)
  return ⟨kind.getD "", message, locations.getD [], children.getD []⟩

/-- Reads a diagnostic, given the reader of those below it. -/
def readWith? (depth : Nat) (children : Reader (List Diagnostic)) : Reader Diagnostic := fun s => do
  let kind := mapReader Field.kind readString?
  let message := mapReader Field.message readString?
  let locations (depth : Nat) := mapReader Field.locations (readListAt? depth readLocation?)
  let children := mapReader Field.children children
  let (fields, rest) ← readFieldsAt? depth
    (fun depth name =>
      if name = "kind" then kind
      else if name = "message" then message
      else if name = "locations" then locations depth
      else if name = "children" then children
      else skipField .other)
    (fun depth => [kind, message, locations depth, children]) s
  let diagnostic ← assemble? fields
  return (diagnostic, rest)

/-- Reads a diagnostic; each level of diagnostics opens an object and a list. -/
def read? : Nat → Reader Diagnostic
  | 0 => fun _ => none
  | 1 => readWith? 1 fun _ => none
  | depth + 2 => readWith? (depth + 2) fun s =>
    match skipSpace s with
    | '[' :: s => readMembers? ']' (read? depth) s
    | _ => none

/-- Reads a list of diagnostics from the front of a text. -/
def readStream? : Reader (List Diagnostic) :=
  readListAt? maxDepth read?

/-- A stream that does not start with a list of diagnostics. -/
structure StreamError where
  stream : List Char
deriving DecidableEq, Repr

/-- How many characters of a stream an error shows. -/
def previewLength : Nat := 120

/-- The text of the error, with the start of the stream. -/
def StreamError.message (e : StreamError) : String :=
  "Failed to parse compiler diagnostics: <json> (stream starts with: "
    ++ Text.quoted (String.ofList (e.stream.take previewLength)) ++ ")"

/-- Reads what the compiler wrote; nothing but blanks means no diagnostics. -/
def parse (stream : String) : Except StreamError (List Diagnostic) :=
  match Text.trim stream.toList with
  | [] => .ok []
  | s =>
    match readStream? s with
    | some (diagnostics, _) => .ok diagnostics
    | none => .error ⟨s⟩

end Diagnostic

end UnityBuild
