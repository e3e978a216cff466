import UnityBuild.CompileRecord
import UnityBuild.Json.Reader
import UnityBuild.Text.Quoted

/-!
# Reading compile databases

A database is a JSON list of records. Each entry is checked in turn and the first that is wrong is
reported with its position. When a source file has several entries, the first one counts.

Main definition: `Database.parse`.
-/

namespace UnityBuild.Database

open Json (Value)

/-- Why an object is no record. -/
inductive DecodeFault where
  | wrongType (found : Value) (expected : String)
  | missing (field : String)

/-- Why an entry is refused. -/
inductive EntryFault where
  | notObject
  | undecodable (fault : DecodeFault)
  | emptyFile
  | noCommand (file : Path)

/-- Why a database is refused. -/
inductive Error where
  | notJson
  | notArray
  | entry (index : Nat) (fault : EntryFault)

/-- How a value is named when another was expected. -/
def describe : Value → String
  | .null => "null"
  | .bool value => "boolean `" ++ (if value then "true" else "false") ++ "`"
  | .number (.integer value) => "integer `" ++ toString value ++ "`"
  | .number (.floating value) =>
    "floating point `" ++ String.ofList (Json.Number.text (.floating value)) ++ "`"
  | .string value => "string " ++ Text.quoted value
  | .array _ => "sequence"
  | .object _ => "map"

/-- The text of a decoding fault. -/
def DecodeFault.message : DecodeFault → String
  | wrongType found expected => "invalid type: " ++ describe found ++ ", expected " ++ expected
  | missing field => "missing field `" ++ field ++ "`"

/-- The text of an entry's fault. -/
def EntryFault.message (index : Nat) : EntryFault → String
  | notObject => "entry " ++ toString index ++ " is not an object"
  | undecodable fault => "entry " ++ toString index ++ ": " ++ fault.message
  | emptyFile => "entry " ++ toString index ++ " has an empty file path"
  | noCommand file =>
    "entry " ++ toString index ++ " (" ++ file.display ++ ") has neither arguments nor command"

/-- The text of the error. -/
def Error.message : Error → String
  | notJson => "Malformed compilation database: <json>"
  | notArray => "Malformed compilation database: expected a JSON array of compile entries"
  | entry index fault => "Malformed compilation database: " ++ fault.message index

/-- A text, where one is needed. -/
def decodeText (expected : String) : Value → Except DecodeFault String
  | .string value => .ok value
  | value => .error (.wrongType value expected)

/-- A list of texts, where one is needed. -/
def decodeTexts : Value → Except DecodeFault (List String)
  | .array items => items.mapM (decodeText "a string")
  | value => .error (.wrongType value "a sequence")

/-- A field that may be absent or null. -/
def optionalField {α : Type} (decode : Value → Except DecodeFault α)
    (fields : List (String × Value)) (name : String) : Except DecodeFault (Option α) :=
  match Json.lastField? name fields with
  | none => .ok none
  | some .null => .ok none
  | some value => (decode value).map some

/-- A field that is decoded when it is there. -/
def presentField {α : Type} (decode : Value → Except DecodeFault α)
    (fields : List (String × Value)) (name : String) : Except DecodeFault (Option α) :=
  match Json.lastField? name fields with
  | none => .ok none
  | some value => (decode value).map some

/-- A field that must be there. -/
def require {α : Type} (name : String) : Option α → Except DecodeFault α
  | none => .error (.missing name)
  | some value => .ok value

/-- Decodes the fields of a record: first those that are present, in the order of their names,
then the absence of those that are needed. -/
def decodeRecord (fields : List (String × Value)) : Except DecodeFault CompileRecord := do
  let arguments ← optionalField decodeTexts fields "arguments"
  let command ← optionalField (decodeText "a string") fields "command"
  let directory ← presentField (decodeText "path string") fields "directory"
  let file ← presentField (decodeText "path string") fields "file"
  let output ← optionalField (decodeText "path string") fields "output"
  let directory ← require "directory" directory
  let file ← require "file" file
  return ⟨.ofText directory, .ofText file, arguments, command, output.map Path.ofText⟩

/-- Whether a record says how its file is compiled. -/
def hasCommand (r : CompileRecord) : Bool :=
  (match r.arguments with
    | some (_ :: _) => true
    | _ => false) ||
  (match r.command with
    | some command => !Text.isAllBlank command.toList
    | none => false)

/-- Reads one entry. -/
def readEntry : Value → Except EntryFault CompileRecord
  | .object fields => do
    let record ← (decodeRecord fields).mapError .undecodable
    if record.file = .empty then throw .emptyFile
    if !hasCommand record then throw (.noCommand record.file)
    return record
  | _ => .error .notObject

/-- Reads entries from a position on; the first wrong one is reported. -/
def readEntries (index : Nat) : List Value → Except Error (List CompileRecord)
  | [] => .ok []
  | value :: values => do
    let record ← (readEntry value).mapError (.entry index)
    let records ← readEntries (index + 1) values
    return record :: records

/-- Keeps the first record of each source file that is not among those seen. -/
def keepFirst (seen : List Path) : List CompileRecord → List CompileRecord
  | [] => []
  | r :: records =>
    if seen.contains r.sourcePath then keepFirst seen records
    else r :: keepFirst (r.sourcePath :: seen) records

/-- Reads a database. -/
def parse (text : String) : Except Error (List CompileRecord) :=
  match Json.readDocument? text.toList with
  | none => .error .notJson
  | some (.array values) => (readEntries 0 values).map (keepFirst [])
  | some _ => .error .notArray

end UnityBuild.Database
