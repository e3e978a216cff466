import UnityBuild.Shell.Glob
import UnityBuild.Shell.Utility.Transfer

/-!
# Listing directories

A directory is listed by the names in it, each in a line of its own.
-/

namespace UnityBuild.Shell.Utility

/-- The names in a directory, in order; hidden ones when that is asked for. -/
def listing (files : FileSystem) (options : List (Char × String)) (path : String) :
    List String :=
  let hidden := given options 'a' || given options 'A'
  let names := (namesIn files path).filter fun name => hidden || !name.startsWith "."
  let dots := if given options 'a' then [".", ".."] else []
  (dots ++ names).mergeSort fun a b => a ≤ b

/-- The lines of a listing in one text. -/
def listingText (lines : List String) : String :=
  String.join (lines.map (· ++ "\n"))

/-- Lists directories. -/
def ls : Utility := fun _ arguments => do
  let words := [("all", 'a'), ("almost-all", 'A'), ("directory", 'd')]
  let (options, paths) ← readArguments "ls" 2 "aA1d" words arguments
  let paths := if paths.isEmpty then ["."] else paths.mergeSort fun a b => a ≤ b
  let files := (← get).files
  let find (path : String) : Except SystemError Entry :=
    match files.entryAt ⟨path⟩ with
    | .ok entry => .ok entry
    | .error _ => files.linkEntryAt ⟨path⟩
  let status ← forPaths paths fun path => do
    match find path with
    | .ok _ => return 0
    | .error error =>
      grumble "ls" ("cannot access " ++ quotedName path ++ ": " ++ error.text)
      return 2
  let isListed (path : String) : Bool := !given options 'd' && files.isDirectory ⟨path⟩
  let singles := paths.filter fun path => (find path).toBool && !isListed path
  let blocks := (paths.filter isListed).map fun path =>
    (if 1 < paths.length then path ++ ":\n" else "") ++ listingText (listing files options path)
  let first := if singles.isEmpty then [] else [listingText singles]
  write (String.intercalate "\n" (first ++ blocks))
  return status

end UnityBuild.Shell.Utility
