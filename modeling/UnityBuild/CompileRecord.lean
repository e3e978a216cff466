import UnityBuild.Json.Printer
import UnityBuild.Path.Normal

/-!
# Compile records

A record of a compile database says how one source file is compiled: the working directory, the
file, and the command as a list of arguments or as one string. A database is printed as a JSON
list of records in which absent members are left out. JSON holds texts, so a record with a path that
is not UTF-8 cannot be printed.
-/

namespace UnityBuild

/-- How one source file is compiled. -/
structure CompileRecord where
  directory : Path
  file : Path
  arguments : Option (List String)
  command : Option String
  output : Option Path
deriving DecidableEq, Repr

namespace CompileRecord

/-- The source file, read from the working directory. -/
def sourcePath (r : CompileRecord) : Path :=
  r.file.resolve r.directory

/-- The spelling under which a project knows the source file. -/
def relativeSource (r : CompileRecord) (root : Path) : String :=
  r.sourcePath.relativeSlash root

/-- The words of a command string. -/
def commandWords (command : String) : List String :=
  (Text.words command.toList).map String.ofList

/-- The command as a list of words. A list of arguments is taken as it is, unless it is empty. -/
def tokens (r : CompileRecord) : List String :=
  match r.arguments with
  | some (first :: rest) => first :: rest
  | _ => (r.command.map commandWords).getD []

/-- The members of a record in a JSON object, in order, given the texts of its paths. -/
def jsonFieldsWith (r : CompileRecord) (directory file : String) (output : Option String) :
    List (String × Json.Value) :=
  [("directory", .string directory), ("file", .string file)]
    ++ (r.arguments.map fun words => ("arguments", Json.Value.array (words.map .string))).toList
    ++ (r.command.map fun command => ("command", Json.Value.string command)).toList
    ++ (output.map fun output => ("output", Json.Value.string output)).toList

/-- The members of a record in a JSON object, if its paths are UTF-8. -/
def jsonFields? (r : CompileRecord) : Option (List (String × Json.Value)) := do
  let directory ← r.directory.text?
  let file ← r.file.text?
  let output ← r.output.mapM Path.text?
  return r.jsonFieldsWith directory file output

end CompileRecord

/-- The text of a compile database, if all paths in it are UTF-8. -/
def databaseText? (records : List CompileRecord) : Option String := do
  let objects ← records.mapM CompileRecord.jsonFields?
  return (Json.Value.array (objects.map .object)).pretty

end UnityBuild
