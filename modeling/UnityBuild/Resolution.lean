import UnityBuild.Diagnostic.Basic
import UnityBuild.Diagnostic.Collision
import UnityBuild.Diagnostic.Reader
import UnityBuild.Path.Normal
import UnityBuild.Renaming

/-!
# Clashes and their resolution

Which names clash in the merged source is known to the compiler alone, so its diagnostics are
asked. Every diagnostic that reports a clash at a known place, at any depth, calls for a renaming
in the file of that place. Top-level diagnostics without such a report are only counted.
-/

namespace UnityBuild

/-- A clash that the compiler reported. -/
structure Collision where
  file : String
  identifier : String
  line : Nat
  column : Nat
deriving DecidableEq, Repr

/-- What the diagnostics of one compilation call for. -/
structure Resolution where
  table : RenamingTable
  collisions : List Collision
  ignored : Nat
  succeeded : Bool
deriving DecidableEq, Repr

namespace Resolution

/-- The spelling under which the project knows the file of a diagnostic, which is read from the
project's root. -/
def unitPath (root file : Path) : String :=
  (file.resolve root).relativeSlash root

/-- The clash that one diagnostic reports. -/
def collisionAt? (root : Path) (d : Diagnostic) : Option Collision := do
  let identifier ← Diagnostic.collisionIdentifier? d.message
  let caret ← d.caret?
  return ⟨unitPath root caret.file, identifier, caret.line, caret.column⟩

/-- The clashes that a diagnostic and those below it report. -/
def collisionsOf (root : Path) (d : Diagnostic) : List Collision :=
  d.flatten.filterMap (collisionAt? root)

/-- The table that renames every clashing identifier. -/
def tableOf (collisions : List Collision) : RenamingTable :=
  .ofList (collisions.map fun c => (c.file, c.identifier))

/-- What the diagnostics of a compilation call for. -/
def extract (root : Path) (succeeded : Bool) (diagnostics : List Diagnostic) : Resolution :=
  let collisions := diagnostics.flatMap (collisionsOf root)
  { table := tableOf collisions
    collisions := collisions
    ignored := diagnostics.countP fun d => (collisionsOf root d).isEmpty
    succeeded := succeeded }

/-- Whether any clash was reported. -/
def hasCollisions (r : Resolution) : Bool :=
  !r.collisions.isEmpty

end Resolution

end UnityBuild
