import UnityBuild.Path.Basic
import UnityBuild.Text.Quoted

/-!
# The files a run leaves behind

All files that a run writes lie in one directory and are called after one name: the merged
source, its object, its preprocessed text and the executable. The compile database and the skip
list beside them have fixed names. A name that could leave the directory or hide the file is
refused.
-/

namespace UnityBuild

/-- A name that no file can be called after. -/
structure InvalidArtifactName where
  name : String
deriving DecidableEq, Repr

/-- The text of the error. -/
def InvalidArtifactName.message (e : InvalidArtifactName) : String :=
  "Invalid artifact name: " ++ Text.quoted e.name

/-- A name is not empty, does not start with a dot and has no separator. -/
def isArtifactName (name : String) : Bool :=
  match name.toList with
  | [] => false
  | first :: rest => first != '.' && (first :: rest).all fun c => c != '/' && c != '\\'

/-- The directory and the name that a run's files are called after. -/
structure Artifacts where
  directory : Path
  name : String
  isName : isArtifactName name = true

namespace Artifacts

/-- The files of a name in a directory. -/
def ofName (directory : Path) (name : String) : Except InvalidArtifactName Artifacts :=
  if h : isArtifactName name = true then .ok ⟨directory, name, h⟩ else .error ⟨name⟩

/-- A file of the directory. -/
def file (a : Artifacts) (name : String) : Path :=
  a.directory.join (.ofText name)

/-- The merged source. -/
def source (a : Artifacts) : Path := a.file (a.name ++ ".c")

/-- The object compiled from the merged source. -/
def object (a : Artifacts) : Path := a.file (a.name ++ ".o")

/-- The merged source after preprocessing. -/
def preprocessed (a : Artifacts) : Path := a.file (a.name ++ ".ii")

/-- The executable linked from the merged source. -/
def executable (a : Artifacts) : Path := a.file a.name

/-- The name of a compile database. -/
def databaseName : String := "compile_commands.json"

/-- The name of a skip list. -/
def skipListName : String := "files_with_errors.txt"

/-- The compile database that describes the merged source. -/
def database (a : Artifacts) : Path := a.file databaseName

/-- The skip list that is used unless another is named. -/
def skipList (a : Artifacts) : Path := a.file skipListName

end Artifacts

end UnityBuild
