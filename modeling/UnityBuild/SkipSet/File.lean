import UnityBuild.FileSystem.Write
import UnityBuild.SkipSet

/-!
# Skip lists in files

A skip list that is not there leaves nothing out. Saving a list writes each file once in its known
spelling and makes the directories that are missing.
-/

namespace UnityBuild.SkipSet

/-- Reads a skip list from a file. -/
def load (files : FileSystem) (file root : Path) : Except SystemError SkipSet :=
  match files.readText file with
  | .ok text => .ok (parse text root)
  | .error .noEntry => .ok empty
  | .error e => .error e

/-- Writes a skip list to a file. -/
def save (s : SkipSet) (file : Path) : FileM Unit :=
  FileM.writeWithParents file s.fileContents

/-- The text of the error when a list cannot be read. -/
def readFailure (file : Path) (error : SystemError) : String :=
  "Failed to read skip list " ++ file.display ++ ": " ++ error.message

/-- The text of the error when a list cannot be written. -/
def writeFailure (file : Path) (error : SystemError) : String :=
  "Failed to write skip list " ++ file.display ++ ": " ++ error.message

end UnityBuild.SkipSet
