import UnityBuild.CommandLine.Options
import UnityBuild.Run.Basic
import UnityBuild.Settings.File

/-!
# Carrying out a command line

The command line is read, the settings are resolved, and the run is made. On success the commands
for the merged source are printed, the link command only when it is wanted.

Main definition: `execute`.
-/

namespace UnityBuild.CommandLine

/-- What surrounds a command line. -/
structure Environment where
  workingDirectory : Path
  compiler : Option String

/-- Why there is nothing to print. -/
inductive Failure where
  | refused (refusal : Refusal)
  | settings (error : SettingsError)
  | run (error : RunError)

/-- What the program prints when it is asked for help. -/
def usageText : String :=
  "Usage: unity-build [OPTIONS] [NAME]\n"

namespace Failure

/-- The exit code: asking for help is no error, and a wrong command line is told apart from a run
that failed. -/
def exitCode : Failure → Nat
  | refused .help => 0
  | refused .usage => 2
  | settings _ => 1
  | run _ => 1

/-- What goes to the standard output. -/
def output : Failure → String
  | refused .help => usageText
  | _ => ""

/-- The texts of the error, from the step that failed to the first cause. -/
def texts : Failure → List String
  | refused .help => []
  | refused .usage => [usageText]
  | settings error => error.message :: error.causes
  | run error => error.message :: error.causes

end Failure

/-- The lines that are printed for a report. -/
def reportLines (link : Bool) (r : Report) : List String :=
  [r.preprocessCommand, r.compileCommand] ++ if link then [r.linkCommand] else []

/-- The root of the project that a command line names. -/
def projectRoot (o : Options) (environment : Environment) : Path :=
  (o.projectRoot.getD .here).resolve environment.workingDirectory

/-- The settings of a command line. -/
def settingsOf (o : Options) (environment : Environment) (files : FileSystem) :
    Except SettingsError Settings :=
  Settings.resolve files (projectRoot o environment) (o.layer environment.compiler) o.config

/-- Carries out a command line and gives the lines to print. -/
def execute (environment : Environment) (compiler : Compiler) (arguments : List String) :
    RunM Failure (List String) := do
  let options ← RunM.lift ((Options.read arguments).mapError .refused)
  let settings ← RunM.look fun files => (settingsOf options environment files).mapError .settings
  let report ← RunM.wrapError .run (settings.run compiler)
  return reportLines options.link report

/-- What a program leaves behind: its exit code, what it printed, and what it said of errors. -/
structure Outcome where
  exitCode : Nat
  output : String
  errors : List String

/-- The outcome of a command line. -/
def Outcome.of : Except Failure (List String) → Outcome
  | .ok lines => ⟨0, String.join (lines.map (· ++ "\n")), []⟩
  | .error e => ⟨e.exitCode, e.output, e.texts⟩

end UnityBuild.CommandLine
