import UnityBuild.Path.Basic

/-!
# Lexical normal form

Normalising removes current-directory steps and lets a parent step cancel the name before it. A
parent step at the root stays at the root; a parent step with nothing to cancel is kept. Links in
a file system play no part: the result depends on the text alone.

Main definitions: `normalize`, `resolve` (the normal form of a path read from a base) and
`relativeTo` (the way from a base to a path).
-/

namespace UnityBuild.Path

/-- Adds one component to a normalised stack of components, top first. -/
def pushNormal (stack : List Component) : Component → List Component
  | .current => stack
  | .parent =>
    match stack with
    | .normal _ :: below => below
    | .root :: below => .root :: below
    | _ => .parent :: stack
  | component => component :: stack

/-- The normal form of a list of components. -/
def normalizeComponents (components : List Component) : List Component :=
  (components.foldl pushNormal []).reverse

/-- Writes components as a path, with a path that stays in place for none. -/
def ofNormal (components : List Component) : Path :=
  if components = [] then here else ofComponents components

/-- The normal form of a path. -/
def normalize (p : Path) : Path :=
  ofNormal (normalizeComponents p.components)

/-- The normal form of a path that is read from a base directory. -/
def resolve (p base : Path) : Path :=
  if p.isAbsolute then p.normalize else (base.join p).normalize

/-- Removes the common start of two lists. -/
def dropCommon : List Component → List Component → List Component × List Component
  | a :: as, b :: bs => if a = b then dropCommon as bs else (a :: as, b :: bs)
  | as, bs => (as, bs)

/-- The way from a base directory to an absolute path: a parent step for each component that
only the base has, then what only the path has. A relative path is only normalised. -/
def relativeTo (p base : Path) : Path :=
  if p.isAbsolute then
    let (onlyPath, onlyBase) := dropCommon p.normalize.components base.normalize.components
    ofNormal (onlyBase.map (fun _ => Component.parent) ++ onlyPath)
  else p.normalize

/-- The spelling under which a file is known in a project: its way from the root, with single
separators. -/
def relativeSlash (p root : Path) : String :=
  (p.relativeTo root).toSlash

end UnityBuild.Path
