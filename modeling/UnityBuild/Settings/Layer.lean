import UnityBuild.Path.Basic

/-!
# Layers of settings

A layer sets some of the settings of a run and leaves the others open. Laid over another, it
keeps what it sets; a list that is not empty replaces the other as a whole.
-/

namespace UnityBuild

/-- Settings that may be left open. -/
structure Layer where
  name : Option String := none
  database : Option Path := none
  outputDir : Option Path := none
  skipList : Option Path := none
  compiler : Option String := none
  dropFlags : List String := []
  testMarker : Option String := none
  linkArguments : List String := []
  verify : Option Bool := none
deriving DecidableEq, Repr, Inhabited

namespace Layer

/-- The first list, unless it is empty. -/
def orList (upper lower : List String) : List String :=
  if upper.isEmpty then lower else upper

/-- Lays one layer over another. -/
def overlay (upper lower : Layer) : Layer where
  name := upper.name.or lower.name
  database := upper.database.or lower.database
  outputDir := upper.outputDir.or lower.outputDir
  skipList := upper.skipList.or lower.skipList
  compiler := upper.compiler.or lower.compiler
  dropFlags := orList upper.dropFlags lower.dropFlags
  testMarker := upper.testMarker.or lower.testMarker
  linkArguments := orList upper.linkArguments lower.linkArguments
  verify := upper.verify.or lower.verify

end Layer

end UnityBuild
