import UnityBuild.FileSystem.Write
import UnityBuild.Unity.Basic

/-!
# Writing the merged source

The source and the database that describes it are written one after the other; a failure names
the file that could not be written. A database whose paths are not UTF-8 cannot be written at all; the
source was written by then.
-/

namespace UnityBuild

/-- Why something could not be written: a file could not, or a database has a path that is not
UTF-8. -/
inductive WriteError where
  | unwritable (file : Path) (error : SystemError)
  | notText
deriving DecidableEq, Repr

namespace WriteError

/-- Says that a path cannot be written in JSON. -/
def notTextReason : String := "path contains invalid UTF-8 characters"

/-- The text of the error. -/
def message : WriteError → String
  | unwritable file error => "Failed to write " ++ file.display ++ ": " ++ error.message
  | notText => "JSON error: " ++ notTextReason

/-- The texts of the errors behind it. -/
def causes : WriteError → List String
  | unwritable _ error => [error.message]
  | notText => [notTextReason]

end WriteError

/-- Writes a text to a file and makes the directories above it. -/
def writeArtifact (file : Path) (content : String) : ExceptT WriteError (StateM FileSystem) Unit :=
  ExceptT.mk do
    return (← (FileM.writeWithParents file content).run).mapError (WriteError.unwritable file)

/-- Writes the merged source and its database. -/
def Unity.Source.write (s : Unity.Source) : ExceptT WriteError (StateM FileSystem) Unit := do
  writeArtifact s.artifacts.source s.text
  match s.databaseText? with
  | some text => writeArtifact s.artifacts.database text
  | none => throw .notText

end UnityBuild
