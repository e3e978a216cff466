import UnityBuild.FileSystem.Follow
import UnityBuild.Settings.Basic
import UnityBuild.Settings.Toml

/-!
# Settings from a file

A settings file is a layer under the settings of the command line. Its keys are known ones, and
each has a value of its kind.

Main definitions: `Layer.ofItems?` and `Settings.resolve`.
-/

namespace UnityBuild

/-- Why there are no settings. -/
inductive SettingsError where
  | unreadable (file : Path) (error : SystemError)
  | malformed (file : Path)
  | noName
deriving DecidableEq, Repr

namespace SettingsError

/-- The text of the error. -/
def message : SettingsError → String
  | unreadable file _ => "Failed to read config file: " ++ file.display
  | malformed file => "Failed to parse config file: " ++ file.display
  | noName => "No artifact name given on the command line or in the config file"

/-- The texts of the errors behind it. -/
def causes : SettingsError → List String
  | unreadable _ error => [error.message]
  | malformed _ => ["<toml>"]
  | noName => []

end SettingsError

namespace Layer

/-- Adds an entry of a settings file to a layer. -/
def addItem? (layer : Layer) (item : Toml.Item) : Option Layer :=
  match item.key, item.value with
  | "name", .text value => some { layer with name := some value }
  | "database", .text value => some { layer with database := some (.ofText value) }
  | "output-dir", .text value => some { layer with outputDir := some (.ofText value) }
  | "skip-list", .text value => some { layer with skipList := some (.ofText value) }
  | "compiler", .text value => some { layer with compiler := some value }
  | "drop-flags", .texts values => some { layer with dropFlags := values }
  | "unit-test-marker", .text value => some { layer with testMarker := some value }
  | "link-args", .texts values => some { layer with linkArguments := values }
  | "verify", .switch value => some { layer with verify := some value }
  | _, _ => none

/-- The layer of the entries of a settings file. -/
def ofItems? (items : List Toml.Item) : Option Layer :=
  items.foldlM addItem? {}

/-- Reads a settings file. -/
def ofFile (files : FileSystem) (file : Path) : Except SettingsError Layer := do
  let text ← (files.readText file).mapError (.unreadable file)
  match Toml.parse? text >>= ofItems? with
  | some layer => return layer
  | none => throw (.malformed file)

end Layer

namespace Settings

/-- The layer of an optional settings file, which is read from the root of the project. -/
def fileLayer (files : FileSystem) (root : Path) : Option Path → Except SettingsError Layer
  | some file => Layer.ofFile files (file.resolve root)
  | none => .ok {}

/-- The settings of a command line over an optional file. -/
def resolve (files : FileSystem) (root : Path) (upper : Layer) (file : Option Path) :
    Except SettingsError Settings := do
  let merged := upper.overlay (← fileLayer files root file)
  match merged.name with
  | some name => return ofLayer root name merged
  | none => throw .noName

end Settings

end UnityBuild
