import UnityBuild.Artifact.File
import UnityBuild.Command.Reader
import UnityBuild.Compiler
import UnityBuild.Database.File
import UnityBuild.Diagnostic.Reader
import UnityBuild.SkipSet.File

/-!
# How a run can fail

An error says at which step the run failed and why. It is told as a list of texts, from the step
to the first cause.
-/

namespace UnityBuild

/-- Why the clashes of a merged source are not known. -/
inductive ResolveError where
  | compiler (error : CompilerError)
  | stream (error : Diagnostic.StreamError)
deriving DecidableEq, Repr

/-- The texts of the error and of the errors behind it. -/
def ResolveError.texts : ResolveError → List String
  | compiler error => error.message :: error.causes
  | stream error => [error.message]

/-- The merged source is written twice. -/
inductive Stage where
  | first
  | second
deriving DecidableEq, Repr

/-- The name of a stage in messages. -/
def Stage.label : Stage → String
  | first => "stage 1"
  | second => "stage 2"

/-- The step at which a run failed, and why. -/
inductive RunError where
  | database (file : Path) (error : Database.LoadError)
  | commands (error : Command.ReadError)
  | skipListRead (file : Path) (error : SystemError)
  | skipListWrite (file : Path) (error : SystemError)
  | artifactName (error : InvalidArtifactName)
  | write (stage : Stage) (error : WriteError)
  | resolve (error : ResolveError)
  | verify (error : ResolveError)

namespace RunError

/-- The text that names the step. -/
def message : RunError → String
  | database file _ => "Failed to load compilation database " ++ file.display
  | commands _ => "Failed to normalize compile commands"
  | skipListRead file _ => "Failed to read skip list " ++ file.display
  | skipListWrite file _ => "Failed to write skip list " ++ file.display
  | artifactName _ => "Invalid artifact name"
  | write stage _ => "Failed to write " ++ stage.label ++ " artifacts"
  | resolve _ => "Failed to resolve name collisions"
  | verify _ => "Failed to verify the final unit"

/-- The texts of the errors behind it, the nearest first. -/
def causes : RunError → List String
  | database _ error => error.message :: error.causes
  | commands error => [error.message]
  | skipListRead file error => [SkipSet.readFailure file error, error.message]
  | skipListWrite file error => [SkipSet.writeFailure file error, error.message]
  | artifactName error => [error.message]
  | write _ error => error.message :: error.causes
  | resolve error => error.texts
  | verify error => error.texts

end RunError

end UnityBuild
