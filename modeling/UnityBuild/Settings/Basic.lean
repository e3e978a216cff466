import UnityBuild.Artifact
import UnityBuild.Path.Normal
import UnityBuild.Settings.Layer
import UnityBuild.Unity.Basic

/-!
# Settings of a run

A layer with a name for the artifacts becomes the settings of a run: what it leaves open has a
default, and paths are read from the root of the project.
-/

namespace UnityBuild

/-- All settings of one run. -/
structure Settings where
  name : String
  root : Path
  database : Path
  outputDir : Path
  skipList : Path
  compiler : String
  denied : List String
  testMarker : String
  linkArguments : List String
  verify : Bool
deriving DecidableEq, Repr

namespace Settings

/-- The directory for the artifacts unless another is named. -/
def defaultOutputDir : String := "amalgamated"

/-- The compiler unless another is named. -/
def defaultCompiler : String := "cc"

/-- The settings of a named layer in a project. -/
def ofLayer (root : Path) (name : String) (layer : Layer) : Settings :=
  let root := root.normalize
  let underRoot (path : Path) : Path := path.resolve root
  let outputDir := underRoot (layer.outputDir.getD (.ofText defaultOutputDir))
  { name := name
    root := root
    database := underRoot (layer.database.getD (.ofText Artifacts.databaseName))
    outputDir := outputDir
    skipList := (layer.skipList.map underRoot).getD (outputDir.join (.ofText Artifacts.skipListName))
    compiler := layer.compiler.getD defaultCompiler
    denied := layer.dropFlags
    testMarker := layer.testMarker.getD Unity.defaultTestMarker
    linkArguments := layer.linkArguments
    verify := layer.verify.getD false }

/-- The settings of a project with nothing but a name. -/
def ofName (root : Path) (name : String) : Settings :=
  ofLayer root name {}

end Settings

end UnityBuild
