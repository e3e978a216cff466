import UnityBuild.Shell.Utility.Basic

/-!
# Utilities on names of files

These utilities look at paths alone and not at files.
-/

namespace UnityBuild.Shell.Utility

/-- A path without separators at its end. -/
def trimSeparators (path : String) : String :=
  let chars := (path.toList.reverse.dropWhile (· == '/')).reverse
  if chars.isEmpty && path.toList.contains '/' then "/" else String.ofList chars

/-- The last name of a path. -/
def lastName (path : String) : String :=
  let path := trimSeparators path
  if path = "/" then path else String.ofList (path.toList.reverse.takeWhile (· != '/')).reverse

/-- A text without an ending, unless it is nothing else. -/
def dropEnding (ending text : String) : String :=
  if text.endsWith ending && text != ending then
    String.ofList (text.toList.take (text.length - ending.length))
  else text

/-- Writes the last name of paths. -/
def basename : Utility := fun _ arguments => do
  let words := [("multiple", 'a'), ("suffix", 's'), ("zero", 'z')]
  let (options, paths) ← readLeading "basename" 1 "as:z" words arguments
  let last := if given options 'z' then "\x00" else "\n"
  let many := given options 'a' || given options 's'
  match paths, many with
  | [], _ => missOperand "basename" ""
  | [path, ending], false =>
    write (dropEnding ending (lastName path) ++ last)
    return 0
  | [path], false =>
    write (lastName path ++ last)
    return 0
  | paths, true =>
    let ending := (valueOf? options 's').getD ""
    write (String.join (paths.map fun path => dropEnding ending (lastName path) ++ last))
    return 0
  | _ :: _ :: extra :: _, false => refuseOperand "basename" extra

/-- The directory part of a path. -/
def directoryPart (path : String) : String :=
  let path := trimSeparators path
  if path = "/" then path
  else
    let front := path.toList.reverse.dropWhile (· != '/')
    if front.isEmpty then "." else trimSeparators (String.ofList front.reverse)

/-- Writes the directory part of paths. -/
def dirname : Utility := fun _ arguments => do
  let (options, paths) ← readLeading "dirname" 1 "z" [("zero", 'z')] arguments
  let last := if given options 'z' then "\x00" else "\n"
  if paths.isEmpty then missOperand "dirname" ""
  write (String.join (paths.map fun path => directoryPart path ++ last))
  return 0

end UnityBuild.Shell.Utility
