import UnityBuild.Database
import UnityBuild.FileSystem.Follow

/-!
# Compile databases in files
-/

namespace UnityBuild.Database

/-- Why no database could be loaded. -/
inductive LoadError where
  | unreadable (file : Path) (error : SystemError)
  | malformed (error : Error)

namespace LoadError

/-- The text of the error. -/
def message : LoadError → String
  | unreadable file error => "Failed to read " ++ file.display ++ ": " ++ error.message
  | malformed error => error.message

/-- The texts of the errors behind it. -/
def causes : LoadError → List String
  | unreadable _ error => [error.message]
  | malformed _ => []

end LoadError

/-- Loads a database from a file. -/
def load (files : FileSystem) (file : Path) : Except LoadError (List CompileRecord) := do
  let text ← (files.readText file).mapError (.unreadable file)
  (parse text).mapError .malformed

end UnityBuild.Database
