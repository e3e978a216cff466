import UnityBuild.Artifact
import UnityBuild.CompileRecord
import UnityBuild.Invocation
import UnityBuild.SkipSet
import UnityBuild.Unity.Block

/-!
# The merged source and its commands

From the units of a project a plan builds one source that includes all of them, and the flags it
is compiled with. Units that are compiled as tests and units of the skip list are left out. The
merged source comes with the commands that preprocess, compile and link it and with a record that
describes the compilation.

Main definition: `Plan.build`.
-/

namespace UnityBuild.Unity

/-- What becomes of a unit. -/
inductive Fate where
  | retained
  | skipped
  | testVariant
deriving DecidableEq, Repr

/-- How many units had each fate. -/
structure Tally where
  retained : Nat
  skipped : Nat
  testVariants : Nat
deriving DecidableEq, Repr

/-- The merged source and all that is needed to compile it. -/
structure Source where
  blocks : List Block
  globalFlags : List String
  tally : Tally
  compiler : String
  root : Path
  artifacts : Artifacts

namespace Source

/-- The text of the merged source: blocks with an empty line between them. -/
def text (s : Source) : String :=
  String.intercalate "\n\n" (s.blocks.map Block.render) ++ "\n"

/-- The first block that includes a file. -/
def blockFor? (s : Source) (path : String) : Option Block :=
  s.blocks.find? fun b => b.path == some path

/-- The files that are included, in order. -/
def includedFiles (s : Source) : List String :=
  s.blocks.filterMap Block.path

/-- A command on the merged source. -/
def invocation (s : Source) (extra final : List String) : Invocation :=
  ⟨s.root, s.compiler :: s.globalFlags ++ extra ++ final⟩

/-- Compiles the merged source, with further flags behind the common ones. -/
def compileWith (s : Source) (extra : List String) : Invocation :=
  s.invocation extra ["-o", s.artifacts.object.display, "-c", s.artifacts.source.display]

/-- Compiles the merged source. -/
def compile (s : Source) : Invocation :=
  s.compileWith []

/-- Preprocesses the merged source. -/
def preprocess (s : Source) : Invocation :=
  s.invocation [] ["-o", s.artifacts.preprocessed.display, "-E", s.artifacts.source.display]

/-- Compiles and links the merged source. -/
def link (s : Source) (linkArguments : List String) : Invocation :=
  s.invocation [] (["-o", s.artifacts.executable.display, s.artifacts.source.display] ++ linkArguments)

/-- The record that describes how the merged source is compiled. -/
def compileRecord (s : Source) : CompileRecord where
  directory := s.root
  file := s.artifacts.source
  arguments := some s.compile.arguments
  command := none
  output := some s.artifacts.object

/-- The text of the compile database that holds this record alone, if its paths are UTF-8. -/
def databaseText? (s : Source) : Option String :=
  UnityBuild.databaseText? [s.compileRecord]

end Source

/-- What the merged sources of one project and one name have in common. -/
structure Plan where
  root : Path
  compiler : String
  artifacts : Artifacts
  testMarker : String

/-- The macro that marks a test unless another is named. -/
def defaultTestMarker : String := "UNIT_TEST"

namespace Plan

/-- Units may name warnings that the compiler of the merged source does not know. -/
def portabilityFlags : List String := ["-Wno-unknown-warning-option"]

/-- What becomes of a unit; being a test counts before the skip list. -/
def fate (p : Plan) (skip : SkipSet) (u : SourceUnit) : Fate :=
  if u.definesMacro p.testMarker then .testVariant
  else if skip.contains u.path then .skipped
  else .retained

/-- The units that are included. -/
def retained (p : Plan) (skip : SkipSet) (units : List SourceUnit) : List SourceUnit :=
  units.filter fun u => p.fate skip u = .retained

/-- Counts the units by their fate. -/
def tally (p : Plan) (skip : SkipSet) (units : List SourceUnit) : Tally where
  retained := units.countP fun u => p.fate skip u = .retained
  skipped := units.countP fun u => p.fate skip u = .skipped
  testVariants := units.countP fun u => p.fate skip u = .testVariant

/-- The flags of the merged source: the flags of the included units that define no macro, the
shared definitions, and the flags of the tool itself, each once. -/
def globalFlags (p : Plan) (included : List SourceUnit) (common : CommonDefines) : List String :=
  (included.flatMap SourceUnit.others ++ common.flags ++ portabilityFlags
    ++ ["-I" ++ p.root.display]).eraseDups

/-- Builds the merged source. -/
def build (p : Plan) (units : List SourceUnit) (common : CommonDefines) (skip : SkipSet)
    (table : RenamingTable) : Source :=
  let included := p.retained skip units
  { blocks := .bootstrap :: included.map fun u => .ofUnit u common table
    globalFlags := p.globalFlags included common
    tally := p.tally skip units
    compiler := p.compiler
    root := p.root
    artifacts := p.artifacts }

end Plan

end UnityBuild.Unity
