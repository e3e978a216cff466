import UnityBuild.Path.Normal
import UnityBuild.Text.Split

/-!
# Skip lists

A skip list names the files that are left out, one on each line. Every entry is brought to the
spelling under which the project knows the file, so it does not matter how it was written. The
set keeps the order of the list and holds each file once.
-/

namespace UnityBuild

/-- The files that are left out. -/
structure SkipSet where
  entries : List String
deriving DecidableEq, Repr

namespace SkipSet

/-- The set of the given entries in the order of their first occurrence. -/
def ofList (entries : List String) : SkipSet :=
  ⟨entries.eraseDups⟩

/-- The set that leaves nothing out. -/
def empty : SkipSet := ⟨[]⟩

/-- The spelling of an entry under which the project knows the file. -/
def canonicalEntry (entry : String) (root : Path) : String :=
  (Path.ofText entry).relativeSlash root

/-- The lines of a skip list that name a file, without the blanks around them. -/
def namedLines (contents : String) : List String :=
  ((Text.lines contents.toList).map Text.trim).filterMap fun line =>
    if line.isEmpty then none else some (String.ofList line)

/-- Reads a skip list. -/
def parse (contents : String) (root : Path) : SkipSet :=
  ofList ((namedLines contents).map fun line => canonicalEntry line root)

/-- Whether a file is left out. -/
def contains (s : SkipSet) (path : String) : Bool :=
  s.entries.contains path

/-- The text of the list: a line for each entry. -/
def fileContents (s : SkipSet) : String :=
  let text := String.intercalate "\n" s.entries
  if text = "" then "" else text ++ "\n"

end SkipSet

end UnityBuild
