import UnityBuild.Shell.Builtin.Arguments

/-!
# The working directory

A shell knows its working directory by the path on which it came there, in which links may stand.
Going to a directory follows parent steps in that path before the file system is asked, unless the
place itself is asked for.
-/

namespace UnityBuild.Shell

/-- The path of the place that is the working directory. -/
def physicalPath (s : State) : String :=
  s.files.workingDirectory.path.octets

/-- The path on which a shell came to its working directory. -/
def workingPath (s : State) : String :=
  if s.session.directory.isEmpty then physicalPath s else s.session.directory

/-- The path by which a shell that starts knows its working directory: the one that it was told if
it leads there, or that of the place. -/
def startingPath (s : State) : String :=
  match s.session.value? "PWD" with
  | some path =>
    if path.startsWith "/" &&
        (s.files.locate ⟨path⟩).toOption = some s.files.workingDirectory then path
    else physicalPath s
  | none => physicalPath s

/-- Whether a path is taken from the working directory, wherever else directories are looked
for. -/
def startsHere (path : String) : Bool :=
  match path.toList with
  | '/' :: _ => true
  | ['.'] => true
  | '.' :: '/' :: _ => true
  | ['.', '.'] => true
  | '.' :: '.' :: '/' :: _ => true
  | _ => false

/-- A step from a path to another one by a name. -/
def stepFrom (names : List String) (name : String) : List String :=
  if name = "." then names
  else if name = ".." then names.dropLast
  else names ++ [name]

/-- The root that a path names: two separators in front of it are kept, and no other number. -/
def rootOf (path : String) : String :=
  match path.toList with
  | '/' :: '/' :: '/' :: _ => "/"
  | '/' :: '/' :: _ => "//"
  | _ => "/"

/-- The path to which a path leads from another one, without steps in it. -/
def plainPath (here path : String) : String :=
  let absolute := path.startsWith "/"
  let start := if absolute then [] else Path.names ⟨here⟩
  let names := (Path.names ⟨path⟩).foldl stepFrom start
  rootOf (if absolute then path else here) ++ String.intercalate "/" names

/-- Where a directory is looked for besides the working directory, and whether finding it there is
told. -/
def directoryCandidates (s : Session) (path : String) : List (String × Bool) :=
  if startsHere path then [] else
    match s.value? "CDPATH" with
    | some search => (Text.splitAt (· == ':') search.toList).map fun front =>
      if front.isEmpty then (path, false) else (String.ofList front ++ "/" ++ path, true)
    | none => []

/-- Goes to a directory. -/
def goTo (physical : Bool) (path : String) : ShellM Bool := do
  let s ← get
  let target := if physical then path else plainPath (workingPath s) path
  match s.files.locate ⟨target⟩ with
  | .error _ => return false
  | .ok place =>
    if !s.files.isDirectory ⟨target⟩ then return false
    let before := workingPath s
    let now := if physical then place.path.octets else target
    modify fun s => { s with
      files := { s.files with workingDirectory := place }
      session := { s.session with directory := now } }
    setVariable "OLDPWD" before
    setVariable "PWD" now
    changeSession fun s =>
      (s.exportVariable "OLDPWD").exportVariable "PWD"
    return true

/-- Whether the last of the options asks for the place itself. -/
def asksForPlace (options : List (Char × String)) : Bool :=
  options.getLast?.any (·.1 == 'P')

/-- Goes to the directory that the arguments name. -/
def cdCommand (arguments : List String) : ShellM Nat := do
  let (options, arguments) ← readOptions "LP" arguments
  let s ← get
  let target := match arguments with
    | [] => (s.session.value? "HOME").getD ""
    | "-" :: _ => (s.session.value? "OLDPWD").getD ""
    | path :: _ => path
  let target := if target.isEmpty then "." else target
  let found := (directoryCandidates s.session target).find? fun candidate =>
    s.files.isDirectory ⟨candidate.1⟩
  let (path, told) := found.getD (target, false)
  if ← goTo (asksForPlace options) path then
    if told || arguments.head? = some "-" then output (workingPath (← get) ++ "\n")
    else return 0
  else fail ("can't cd to " ++ target)

/-- Tells the working directory. -/
def pwdCommand (arguments : List String) : ShellM Nat := do
  let (options, _) ← readOptions "LP" arguments
  let s ← get
  output ((if asksForPlace options then physicalPath s else workingPath s) ++ "\n")

end UnityBuild.Shell
