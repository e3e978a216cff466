import UnityBuild.Shell.Utility.Names

/-!
# Utilities that make and remove files

A path of an argument is followed to a place; a link at its end is removed itself and not what it
leads to.
-/

namespace UnityBuild.Shell.Utility

/-- Changes the files, or complains. The result is the status. -/
def changing (name complaint : String) (change : FileSystem → Except SystemError FileSystem) :
    ShellM Nat := do
  match change (← get).files with
  | .ok files =>
    modify fun s => { s with files := files }
    return 0
  | .error error =>
    grumble name (complaint ++ ": " ++ error.text)
    return 1

/-- Does something for every path; the worst status counts. -/
def forPaths (paths : List String) (use : String → ShellM Nat) : ShellM Nat :=
  paths.foldlM (fun status path => do return max status (← use path)) 0

/-! ### Making -/

/-- The paths of all directories on the way to a path, the path itself last. -/
def pathsOnWay (path : String) : List String :=
  let pieces := (Text.splitAt (· == '/') path.toList).map String.ofList
  (List.range pieces.length).filterMap fun i =>
    if (pieces.getD i "").isEmpty then none
    else some (String.intercalate "/" (pieces.take (i + 1)))

/-- Makes a directory on the way to others; one that is there is fine. None when it can be gone on
with. -/
def makeOnWay (last : Bool) (path : String) : ShellM (Option Nat) := do
  let files := (← get).files
  match files.makeDirectory ⟨path⟩ with
  | .ok files =>
    modify fun s => { s with files := files }
    return none
  | .error error =>
    if files.isDirectory ⟨path⟩ then return none
    let error := if last then error else match error, files.entryAt ⟨path⟩ with
      | .alreadyExists, .ok _ => .notDirectory
      | .alreadyExists, .error error => error
      | error, _ => error
    grumble "mkdir" ("cannot create directory " ++ quotedName path ++ ": " ++ error.text)
    return some 1

/-- Makes a directory and all on the way to it. -/
def makeAll : List String → ShellM Nat
  | [] => return 0
  | path :: paths => do
    match ← makeOnWay paths.isEmpty path with
    | some status => return status
    | none => makeAll paths

/-- Makes directories. -/
def mkdir : Utility := fun _ arguments => do
  let (options, paths) ← readArguments "mkdir" 1 "p" [("parents", 'p')] arguments
  if paths.isEmpty then missOperand "mkdir" ""
  forPaths paths fun path =>
    if given options 'p' && !path.isEmpty then makeAll (pathsOnWay path)
    else changing "mkdir" ("cannot create directory " ++ quotedName path) fun files =>
      files.makeDirectory ⟨path⟩

/-- Makes sure that files are there. -/
def touch : Utility := fun _ arguments => do
  let (options, paths) ← readArguments "touch" 1 "c" [("no-create", 'c')] arguments
  if paths.isEmpty then
    giveUpWithHelp "touch" "missing file operand" 1
  forPaths paths fun path => do
    match (← get).files.entryAt ⟨path⟩ with
    | .ok _ => return 0
    | .error error =>
      if path = "-" then return 0
      else if given options 'c' && (error = .noEntry || error = .notDirectory) then return 0
      else if error = .noEntry && !path.endsWith "/" then
        changing "touch" ("cannot touch " ++ quotedName path) fun files =>
          files.writeBytes ⟨path⟩ .empty
      else
        let start := if error = .noEntry then "setting times of " else "cannot touch "
        grumble "touch" (start ++ quotedName path ++ ": " ++ error.text)
        return 1

/-! ### Removing -/

/-- Removes a directory that holds nothing. -/
def removeEmpty (files : FileSystem) (path : String) : Except SystemError FileSystem := do
  let place ← files.locateLink ⟨trimSeparators path⟩
  let name := (Path.names ⟨path⟩).getLast?
  if name = some "." then throw .invalidArgument
  files.checkDirectory place
  if place.isEmpty then throw .busy
  if name = some ".." then throw .notEmpty
  if (files.below place).isEmpty then return files.remove place else throw .notEmpty

/-- Removes directories that hold nothing. -/
def rmdir : Utility := fun _ arguments => do
  let (_, paths) ← readArguments "rmdir" 1 "" [] arguments
  if paths.isEmpty then missOperand "rmdir" ""
  forPaths paths fun path => do
    match removeEmpty (← get).files (trimSeparators path) with
    | .ok files =>
      modify fun s => { s with files := files }
      return 0
    | .error error =>
      let isLink := path.endsWith "/" && error = .notDirectory &&
        (← get).files.isLink ⟨trimSeparators path⟩
      let why := if isLink then "Symbolic link not followed" else error.text
      grumble "rmdir" ("failed to remove " ++ quotedName path ++ ": " ++ why)
      return 1

/-- Removes a path. -/
def removePath (options : List (Char × String)) (recursive : Bool) (path : String) :
    ShellM Nat := do
  let files := (← get).files
  if recursive && ["", ".", ".."].contains (lastName path) && path != "" then
    grumble "rm" ("refusing to remove '.' or '..' directory: skipping " ++ quotedName path)
    return 1
  if recursive && lastName path = "/" then
    grumble "rm" "it is dangerous to operate recursively on '/'"
    grumble "rm" "use --no-preserve-root to override this failsafe"
    return 1
  match files.locateLink ⟨path⟩, files.linkEntryAt ⟨path⟩ with
  | .ok place, .ok entry =>
    if entry.isDirectory && !recursive then
      grumble "rm" ("cannot remove " ++ quotedName path ++ ": Is a directory")
      return 1
    if path.endsWith "/" && files.isLink ⟨trimSeparators path⟩ then
      (files.below place).forM fun entry => removePlace (place ++ entry.1)
      grumble "rm" ("cannot remove " ++ quotedName path ++ ": Not a directory")
      return 1
    removePlace place
    return 0
  | _, .error error => refuseRemoval error
  | .error error, _ => refuseRemoval error
where
  refuseRemoval (error : SystemError) : ShellM Nat := do
    if given options 'f' && (error = .noEntry || error = .notDirectory) then return 0
    grumble "rm" ("cannot remove " ++ quotedName path ++ ": " ++ error.text)
    return 1

/-- Removes files, and directories when that is asked for. -/
def rm : Utility := fun _ arguments => do
  let words := [("recursive", 'r'), ("force", 'f')]
  let (options, paths) ← readArguments "rm" 1 "rRf" words arguments
  if paths.isEmpty then
    if given options 'f' then return 0 else missOperand "rm" ""
  let recursive := given options 'r' || given options 'R'
  forPaths paths (removePath options recursive)

end UnityBuild.Shell.Utility
