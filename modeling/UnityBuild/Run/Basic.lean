import UnityBuild.Resolution
import UnityBuild.Run.Error
import UnityBuild.Settings.Basic

/-!
# A run

A run reads the database and the skip list, merges the sources, and asks the compiler which names
clash. It then merges the sources again with the clashing names renamed, and may ask once more
whether any clash is left. The state holds the files and the calls of the compiler; a run that
fails leaves it as it was at that moment.

Main definition: `Settings.run`.
-/

namespace UnityBuild

/-- The files, and the calls of the compiler so far. -/
structure RunState where
  files : FileSystem
  calls : List CompilerCall

/-- A step of a run; what it changed before failing stays. -/
abbrev RunM (ε α : Type) := ExceptT ε (StateM RunState) α

namespace RunM

/-- A step that only looks at the files. -/
def look {ε α : Type} (f : FileSystem → Except ε α) : RunM ε α := fun state =>
  (f state.files, state)

/-- A step that changes the files. -/
def touch {ε δ : Type} (wrap : δ → ε) (action : ExceptT δ (StateM FileSystem) Unit) :
    RunM ε Unit := fun state =>
  let (result, files) := action.run.run state.files
  (result.mapError wrap, { state with files := files })

/-- A step that can fail without looking at anything. -/
def lift {ε α : Type} (result : Except ε α) : RunM ε α := fun state =>
  (result, state)

/-- Runs the compiler and remembers the call. -/
def compile (compiler : Compiler) (invocation : Invocation) :
    RunM CompilerError CompilerOutput := fun state =>
  let (result, files) := compiler state.calls invocation state.files
  (result, ⟨files, state.calls ++ [⟨invocation, state.files⟩]⟩)

/-- Changes the error of a step. -/
def wrapError {δ ε α : Type} (wrap : δ → ε) (action : RunM δ α) : RunM ε α := fun state =>
  let (result, state) := action state
  (result.mapError wrap, state)

end RunM

/-- The flags that make the compiler write its diagnostics in the form that is read. -/
def diagnosticFlags : List String := ["-fdiagnostics-format=json"]

/-- Compiles a merged source and reads off the clashes. -/
def Unity.Source.resolve (s : Unity.Source) (root : Path) (compiler : Compiler) :
    RunM ResolveError Resolution := do
  let output ← RunM.wrapError .compiler (RunM.compile compiler (s.compileWith diagnosticFlags))
  let diagnostics ← RunM.lift ((Diagnostic.parse output.diagnostics).mapError .stream)
  return Resolution.extract root output.success diagnostics

/-- What a run reports. -/
structure Report where
  unitCount : Nat
  common : CommonDefines
  skip : SkipSet
  resolution : Resolution
  residual : Option Resolution
  source : Unity.Source
  linkArguments : List String

namespace Report

/-- The command that preprocesses the merged source. -/
def preprocessCommand (r : Report) : String := r.source.preprocess.shellCommand

/-- The command that compiles the merged source. -/
def compileCommand (r : Report) : String := r.source.compile.shellCommand

/-- The command that links the executable. -/
def linkCommand (r : Report) : String := (r.source.link r.linkArguments).shellCommand

/-- Whether the final source was checked and no clash was left. -/
def verifiedClean (r : Report) : Option Bool :=
  r.residual.map fun resolution => !resolution.hasCollisions

end Report

namespace Settings

/-- How the commands of the project are read. -/
def reader (s : Settings) : Command.Reader :=
  ⟨s.root, .standard, s.denied⟩

/-- The plan for the merged source. -/
def plan (s : Settings) (artifacts : Artifacts) : Unity.Plan :=
  ⟨s.root, s.compiler, artifacts, s.testMarker⟩

/-- What is known before anything is merged. -/
structure Inputs where
  units : List SourceUnit
  skip : SkipSet
  plan : Unity.Plan

/-- Reads the inputs. The skip list is written back in its known spelling before the name of the
artifacts is looked at. -/
def prepare (s : Settings) : RunM RunError Inputs := do
  let records ← RunM.look fun files =>
    (Database.load files s.database).mapError (.database s.database)
  let units ← RunM.lift ((s.reader.readAll records).mapError .commands)
  let skip ← RunM.look fun files =>
    (SkipSet.load files s.skipList s.root).mapError (.skipListRead s.skipList)
  RunM.touch (.skipListWrite s.skipList) (skip.save s.skipList)
  let artifacts ← RunM.lift ((Artifacts.ofName s.outputDir s.name).mapError .artifactName)
  return ⟨units, skip, s.plan artifacts⟩

/-- Merges the sources with a table of renamings and writes the result. -/
def writeStage (inputs : Inputs) (stage : Stage) (table : RenamingTable) :
    RunM RunError Unity.Source := do
  let source := inputs.plan.build inputs.units (.hoist inputs.units) inputs.skip table
  RunM.touch (.write stage) source.write
  return source

/-- Asks the compiler about the final source, if that is wanted. -/
def checkFinal (s : Settings) (source : Unity.Source) (compiler : Compiler) :
    RunM RunError (Option Resolution) :=
  if s.verify then RunM.wrapError .verify (some <$> source.resolve s.root compiler)
  else return none

/-- A whole run. -/
def run (s : Settings) (compiler : Compiler) : RunM RunError Report := do
  let inputs ← s.prepare
  let first ← writeStage inputs .first .empty
  let resolution ← RunM.wrapError .resolve (first.resolve s.root compiler)
  let source ← writeStage inputs .second resolution.table
  let residual ← s.checkFinal source compiler
  return {
    unitCount := inputs.units.length
    common := .hoist inputs.units
    skip := inputs.skip
    resolution := resolution
    residual := residual
    source := source
    linkArguments := s.linkArguments }

end Settings

end UnityBuild
