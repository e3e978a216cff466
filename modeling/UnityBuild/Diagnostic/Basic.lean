import UnityBuild.Path.Basic

/-!
# Compiler diagnostics

A diagnostic is a message with the places it speaks of and further diagnostics below it. The
place that counts is the first one with a caret.
-/

namespace UnityBuild

/-- A place in a file. -/
structure Position where
  file : Path
  line : Nat
  column : Nat
deriving DecidableEq, Repr

/-- A place that a diagnostic speaks of, if it has a caret. -/
structure SourceLocation where
  caret : Option Position
deriving DecidableEq, Repr

/-- A message of the compiler. -/
structure Diagnostic where
  kind : String
  message : String
  locations : List SourceLocation
  children : List Diagnostic

namespace Diagnostic

/-- The first caret. -/
def caret? (d : Diagnostic) : Option Position :=
  d.locations.findSome? SourceLocation.caret

mutual

/-- A diagnostic and all below it, each before those below it. -/
def flatten : Diagnostic → List Diagnostic
  | ⟨kind, message, locations, children⟩ =>
    ⟨kind, message, locations, children⟩ :: flattenAll children

/-- All diagnostics of a list and below it. -/
def flattenAll : List Diagnostic → List Diagnostic
  | [] => []
  | d :: ds => flatten d ++ flattenAll ds

end

end Diagnostic

end UnityBuild
