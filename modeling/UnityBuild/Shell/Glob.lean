import UnityBuild.Shell.Fields
import UnityBuild.Shell.State

/-!
# Paths from patterns

A field with unquoted signs stands for all paths of its form that lead somewhere, in order. Names
that start with a dot are found only by patterns that start with one. Without any such path the
field stands for itself.
-/

namespace UnityBuild.Shell

/-- Cuts a pattern at its separators. -/
def cutPattern : List PatternChar → List (List PatternChar)
  | [] => [[]]
  | c :: s =>
    if c.char = '/' then [] :: cutPattern s
    else match cutPattern s with
      | piece :: pieces => (c :: piece) :: pieces
      | [] => [[c]]

/-- The names in a directory. -/
def namesIn (files : FileSystem) (path : String) : List String :=
  match files.locate ⟨if path.isEmpty then "." else path⟩ with
  | .ok place =>
    (files.below place).filterMap fun (names, _) =>
      match names with
      | [name] => some name
      | _ => none
  | .error _ => []

/-- Whether a pattern finds a name. -/
def finds (pattern : Pattern) (name : String) : Bool :=
  let hidden := name.toList.head? == some '.'
  (!hidden || pattern.head? == some (.char '.')) && pattern.fits name.toList

/-- The paths that start with a path and go on with the pieces of a pattern. -/
def pathsFrom (files : FileSystem) (front : String) : List (List PatternChar) → List String
  | [] => if (files.entryAt ⟨front⟩).toBool then [front] else []
  | piece :: pieces =>
    let pattern := Pattern.read piece
    let join := fun name => if pieces.isEmpty then front ++ name else front ++ name ++ "/"
    if pattern.isPlain then pathsFrom files (join pattern.plainText) pieces
    else
      let names := [".", ".."] ++ namesIn files front
      (names.filter (finds pattern)).flatMap fun name =>
        if pieces.isEmpty || files.isDirectory ⟨front ++ name⟩ then
          pathsFrom files (join name) pieces
        else []

/-- The texts that a field stands for. -/
def Field.paths (files : FileSystem) (f : Field) : List String :=
  if f.hasSigns then
    match pathsFrom files "" (cutPattern f.pattern) with
    | [] => [f.text]
    | found => found.mergeSort fun a b => a ≤ b
  else [f.text]

end UnityBuild.Shell
