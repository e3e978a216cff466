import UnityBuild.Shell.Utility.Files

/-!
# Utilities that copy, move and link files

A file goes to a path, or into a directory under its own name. Nothing is written over a directory,
and no directory goes into itself.
-/

namespace UnityBuild.Shell.Utility

/-- Where files go: to a path itself, or into a directory. -/
inductive Goal where
  | itself (path : String)
  | inside (directory : String)

/-- The path to which a file goes. -/
def Goal.pathFor (goal : Goal) (source : String) : String :=
  match goal with
  | itself path => path
  | inside directory =>
    (if directory.endsWith "/" then directory else directory ++ "/") ++ lastName source

/-- The sources and the goal that operands name. -/
def readGoal (name : String) (options : List (Char × String)) (paths : List String) :
    ShellM (List String × Goal) := do
  let files := (← get).files
  let isDirectory (path : String) : Bool := files.isDirectory ⟨path⟩ &&
    !(given options 'n' && files.isLink ⟨path⟩)
  match paths with
  | [] => giveUpWithHelp name "missing file operand" 1
  | [single] =>
    if name = "ln" then return ([single], .inside ".")
    else giveUpWithHelp name ("missing destination file operand after " ++ quotedName single) 1
  | paths =>
    let target := paths.getLast?.getD ""
    let sources := paths.dropLast
    if isDirectory target then return (sources, .inside target)
    else if 1 < sources.length then
      match files.entryAt ⟨target⟩ with
      | .ok _ => giveUp name ("target " ++ quotedName target ++ ": Not a directory") 1
      | .error error => giveUp name ("target " ++ quotedName target ++ ": " ++ error.text) 1
    else return (sources, .itself target)

/-! ### Copying -/

/-- Complains about a file that is not copied. -/
def refuseCopy (text : String) : ShellM Nat := do
  grumble "cp" text
  return 1

/-- Copies the content of a file. -/
def copyContent (source goal : String) : ShellM Nat := do
  let s ← get
  let rights := match s.files.entryAt ⟨source⟩ with
    | .ok (.file _ rights) => rights
    | _ => .ofNew
  let existed := (s.files.entryAt ⟨goal⟩).toBool
  if !existed && s.files.isLink ⟨goal⟩ then
    return ← refuseCopy ("not writing through dangling symlink " ++ quotedName goal)
  if !existed && goal.endsWith "/" then
    return ← refuseCopy ("cannot create regular file " ++ quotedName goal ++ ": Not a directory")
  match ← readPath source with
  | .error error => refuseCopy ("error reading " ++ quotedName source ++ ": " ++ error.text)
  | .ok content =>
    match ← writePath false goal content with
    | .ok () =>
      if !existed then
        let kept := rights &&& (allRights ^^^ mask)
        modify fun s => { s with files := giveRights s.files kept }
      return 0
    | .error .noSpace => refuseCopy ("error writing " ++ quotedName goal ++ ": " ++
        SystemError.noSpace.text)
    | .error error =>
      refuseCopy ("cannot create regular file " ++ quotedName goal ++ ": " ++ error.text)
where
  giveRights (files : FileSystem) (rights : Rights) : FileSystem :=
    match files.locate ⟨goal⟩, files.entryAt ⟨goal⟩ with
    | .ok place, .ok (.file content _) => files.setFile place content rights
    | _, _ => files

/-- Copies what is no directory. -/
def copyFile (entry : Entry) (source goal : String) : ShellM Nat := do
  let files := (← get).files
  match files.linkEntryAt ⟨goal⟩ with
  | .ok old =>
    if old.isDirectory || (files.isDirectory ⟨goal⟩ && !entry.isLink) then
      return ← refuseCopy ("cannot overwrite directory " ++ quotedName goal ++
        " with non-directory")
  | .error _ => pure ()
  match entry with
  | .link target =>
    let freed := match files.locateLink ⟨goal⟩ with
      | .ok place => files.remove place
      | .error _ => files
    match freed.makeLink ⟨goal⟩ target with
    | .ok files =>
      modify fun s => { s with files := files }
      return 0
    | .error error =>
      refuseCopy ("cannot create symbolic link " ++ quotedName goal ++ ": " ++ error.text)
  | _ => copyContent source goal

/-- Copies a file, or a directory with all below it when that is asked for, and then links as
links; `depth` bounds how deep that is. -/
def copyTree (recursive : Bool) : Nat → String → String → ShellM Nat
  | 0, _, _ => return 1
  | depth + 1, source, goal => do
    let files := (← get).files
    let found := if recursive then files.linkEntryAt ⟨source⟩
      else files.entryAt ⟨source⟩
    match found with
    | .error error => refuseCopy ("cannot stat " ++ quotedName source ++ ": " ++ error.text)
    | .ok entry =>
      if entry.isDirectory && !recursive then
        return ← refuseCopy ("-r not specified; omitting directory " ++ quotedName source)
      let place := files.locate ⟨source⟩
      let goalPlace := files.locate ⟨goal⟩
      match place, goalPlace with
      | .ok place, .ok goalPlace =>
        if (files.namesOf place).contains goalPlace && (files.get? place).isSome then
          return ← refuseCopy (quotedName source ++ " and " ++ quotedName goal ++
            " are the same file")
      | _, _ => pure ()
      match files.linkEntryAt ⟨goal⟩ with
      | .error .notDirectory =>
        return ← refuseCopy ("cannot stat " ++ quotedName goal ++ ": Not a directory")
      | _ => pure ()
      if !entry.isDirectory then copyFile entry source goal
      else
        match files.entryAt ⟨goal⟩ with
        | .ok old =>
          if !old.isDirectory then
            return ← refuseCopy ("cannot overwrite non-directory " ++ quotedName goal ++
              " with directory " ++ quotedName source)
        | .error _ =>
          match files.makeDirectory ⟨goal⟩ with
          | .error error =>
            return ← refuseCopy ("cannot create directory " ++ quotedName goal ++ ": " ++
              error.text)
          | .ok files => modify fun s => { s with files := files }
        let names := directChildren files place
        let front := if source.endsWith "/" then source else source ++ "/"
        let goalFront := if goal.endsWith "/" then goal else goal ++ "/"
        let status ← names.foldlM (fun status name => do
          return max status (← copyTree recursive depth (front ++ name) (goalFront ++ name))) 0
        match place, goalPlace with
        | .ok place, .ok goalPlace =>
          if place.isPrefixOf goalPlace then
            refuseCopy ("cannot copy a directory, " ++ quotedName source ++ ", into itself, " ++
              quotedName goal)
          else return status
        | _, _ => return status
where
  directChildren (files : FileSystem) : Except SystemError Location → List String
    | .error _ => []
    | .ok place => (files.below place).filterMap fun (names, _) =>
      match names with
      | [name] => some name
      | _ => none

/-- Copies files. -/
def cp : Utility := fun _ arguments => do
  let words := [("recursive", 'r'), ("force", 'f')]
  let (options, paths) ← readArguments "cp" 1 "rRf" words arguments
  let (sources, goal) ← readGoal "cp" [] paths
  let depth := (← get).files.entries.length + 1
  let recursive := given options 'r' || given options 'R'
  forPaths sources fun source => copyTree recursive depth source (goal.pathFor source)

/-! ### Moving -/

/-- Why something cannot be moved to a path, if so. -/
def moveProblem? (files : FileSystem) (place goalPlace : Location) (entry : Entry)
    (source goal : String) : Option String :=
  let old := files.get? goalPlace
  if place = goalPlace then
    some (quotedName source ++ " and " ++ quotedName goal ++ " are the same file")
  else if entry.isDirectory && place.isPrefixOf goalPlace then
    some ("cannot move " ++ quotedName source ++ " to a subdirectory of itself, " ++
      quotedName goal)
  else
    match old with
    | none => none
    | some old =>
      if entry.isDirectory && !old.isDirectory then
        some ("cannot overwrite non-directory " ++ quotedName goal ++ " with directory " ++
          quotedName source)
      else if !entry.isDirectory && old.isDirectory then
        some ("cannot overwrite directory " ++ quotedName goal ++ " with non-directory")
      else if entry.isDirectory && !(files.below goalPlace).isEmpty then
        some ("cannot overwrite " ++ quotedName goal ++ ": Directory not empty")
      else none

/-- Moves one file. -/
def moveFile (source goal : String) : ShellM Nat := do
  let files := (← get).files
  let refuseMove (text : String) : ShellM Nat := do
    grumble "mv" text
    return 1
  match files.locateLink ⟨source⟩, files.linkEntryAt ⟨source⟩ with
  | .ok place, .ok entry =>
    let goalText := if entry.isDirectory then trimSeparators goal else goal
    match files.locateLink ⟨goalText⟩ with
    | .error error =>
      let error := if goalText.endsWith "/" && error = .noEntry then .notDirectory else error
      if error = .notDirectory && !goalText.endsWith "/" then
        refuseMove ("cannot stat " ++ quotedName goal ++ ": " ++ error.text)
      else
        refuseMove ("cannot move " ++ quotedName source ++ " to " ++ quotedName goal ++ ": " ++
          error.text)
    | .ok goalPlace =>
      match moveProblem? files place goalPlace entry source goal with
      | some problem => refuseMove problem
      | none =>
        match files.get? goalPlace with
        | some (.device _) =>
          refuseMove ("cannot move " ++ quotedName source ++ " to " ++ quotedName goal ++ ": " ++
            SystemError.permissionDenied.text)
        | _ =>
          movePlace place goalPlace
          return 0
  | _, .error error => refuseMove ("cannot stat " ++ quotedName source ++ ": " ++ error.text)
  | .error error, _ => refuseMove ("cannot stat " ++ quotedName source ++ ": " ++ error.text)

/-- Moves files. -/
def mv : Utility := fun _ arguments => do
  let (_, paths) ← readArguments "mv" 1 "f" [("force", 'f')] arguments
  let (sources, goal) ← readGoal "mv" [] paths
  forPaths sources fun source => moveFile source (goal.pathFor source)

/-! ### Linking -/

/-- Makes one link. -/
def linkFile (options : List (Char × String)) (source goal : String) : ShellM Nat := do
  let files := (← get).files
  let symbolic := given options 's'
  let refuseLink (text : String) : ShellM Nat := do
    grumble "ln" text
    return 1
  let found := files.linkEntryAt ⟨source⟩
  let kind := if symbolic then "symbolic" else "hard"
  match symbolic, found with
  | false, .error error =>
    refuseLink ("failed to access " ++ quotedName source ++ ": " ++ error.text)
  | false, .ok .directory =>
    refuseLink (shownName source ++ ": hard link not allowed for directory")
  | _, found =>
    let old := files.linkEntryAt ⟨goal⟩
    let freed := match given options 'f', files.locateLink ⟨goal⟩, old with
      | true, .ok place, .ok entry => if entry.isDirectory then files else files.remove place
      | _, _, _ => files
    if !symbolic && given options 'f' && old.toBool &&
        (files.locate ⟨source⟩).toOption == (files.locate ⟨goal⟩).toOption then
      return ← refuseLink (quotedName source ++ " and " ++ quotedName goal ++
        " are the same file")
    let made := match symbolic, found with
      | false, .ok entry => do
        let linked ← freed.makeLink ⟨goal⟩ source
        return linked.addName (← linked.locateLink ⟨source⟩)
          (← linked.locateLink ⟨goal⟩) entry
      | _, _ => freed.makeLink ⟨goal⟩ source
    match made with
    | .ok files =>
      modify fun s => { s with files := files }
      return 0
    | .error error =>
      let behind := if symbolic || error = .alreadyExists then "" else " => " ++ quotedName source
      refuseLink ("failed to create " ++ kind ++ " link " ++ quotedName goal ++ behind ++ ": " ++
        error.text)

/-- Makes links. -/
def ln : Utility := fun _ arguments => do
  let words := [("symbolic", 's'), ("force", 'f'), ("no-dereference", 'n')]
  let (options, paths) ← readArguments "ln" 1 "sfn" words arguments
  let (sources, goal) ← readGoal "ln" options paths
  forPaths sources fun source => linkFile options source (goal.pathFor source)

/-! ### Rights -/

/-- Changes the rights of what is at a path. -/
def changeRights (change : RightsChange) (path : String) : ShellM Nat := do
  let files := (← get).files
  match files.locate ⟨path⟩, files.entryAt ⟨path⟩ with
  | .ok place, .ok (.file content rights) =>
    let rights := change.apply mask false rights
    modify fun s => { s with files := s.files.setFile place content rights }
    return 0
  | .ok _, .ok _ => return 0
  | _, found =>
    let error := match found with
      | .error error => error
      | .ok _ => .noEntry
    if files.isLink ⟨path⟩ then
      grumble "chmod" ("cannot operate on dangling symlink " ++ quotedName path)
    else grumble "chmod" ("cannot access " ++ quotedName path ++ ": " ++ error.text)
    return 1

/-- Whether an argument is a change of rights that looks like an option. -/
def isRightsOption (argument : String) : Bool :=
  match argument.toList with
  | '-' :: c :: _ => "rwxXstugo".toList.contains c
  | _ => false

/-- Changes the rights of files. -/
def chmod : Utility := fun _ arguments => do
  let taken := arguments.takeWhile (· != "--")
  let minus := taken.filter isRightsOption
  let others := (taken.filter fun argument => !isRightsOption argument) ++
    arguments.drop taken.length
  let (_, operands) ← readArguments "chmod" 1 "" [] others
  let operands := (if minus.isEmpty then [] else [String.intercalate "," minus]) ++ operands
  match operands with
  | [] => missOperand "chmod" ""
  | [mode] => missOperand "chmod" (" after " ++ quotedName mode)
  | mode :: paths =>
    match RightsChange.read? mode with
    | none => giveUpWithHelp "chmod" ("invalid mode: " ++ quotedName mode) 1
    | some change => forPaths paths (changeRights change)

end UnityBuild.Shell.Utility
