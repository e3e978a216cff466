import UnityBuild.FileSystem.Follow

/-!
# Writing files

Making a directory and writing a file change one location, the one that the path leads to, whose
parent must be a directory. What is written to a device leaves no trace. Making all directories
of a path starts at the first that is missing; what was made stays when a later step fails.
-/

namespace UnityBuild

/-- An action that can change files and fail; what it changed before failing stays. -/
abbrev FileM (α : Type) := ExceptT SystemError (StateM FileSystem) α

namespace FileSystem

/-- The directory and the last name that a path leads to. The root has no name. -/
def locateParent (fs : FileSystem) (p : Path) :
    Except SystemError (Option (Location × String)) := do
  checkText p
  match p.names.getLast? with
  | none => return none
  | some name =>
    let parent ← fs.follow (fs.start p) p.names.dropLast
    fs.checkDirectory parent
    return some (parent, name)

/-- The place of a name in a directory. -/
def child (parent : Location) (name : String) : Except SystemError Location :=
  if maxNameSize < name.length then .error .nameTooLong else .ok (parent ++ [name])

/-- The directories in which only the system itself makes anything. -/
def isSealed : Location → Bool
  | "proc" :: _ :: _ => true
  | "sys" :: _ :: _ => true
  | _ => false

/-- Why nothing can be made at a place in a sealed directory. -/
def sealedError (place : Location) (otherwise : SystemError) : SystemError :=
  if place.head? = some "proc" then .noEntry else otherwise

/-- Whether a name leads to another place than a new one. -/
def isStep (name : String) : Bool :=
  name == "." || name == ".."

/-- Makes a directory. -/
def makeDirectory (fs : FileSystem) (p : Path) : Except SystemError FileSystem := do
  match ← fs.locateParent p with
  | none => throw .alreadyExists
  | some (parent, name) =>
    if isStep name then throw .alreadyExists
    let place ← child parent name
    match fs.get? place with
    | some _ => throw .alreadyExists
    | none =>
      if isSealed place then throw (sealedError place .notPermitted)
      return fs.set place .directory

/-- Writes bytes to a device. -/
def writeDevice (fs : FileSystem) (device : Device) (content : ByteArray) :
    Except SystemError FileSystem :=
  match device with
  | .full => if content.isEmpty then .ok fs else .error .noSpace
  | .terminal => .error .noDevice
  | _ => .ok fs

/-- Writes the file at a place; a file that is there keeps its rights. -/
def writeAt (fs : FileSystem) (place : Location) (content : ByteArray) :
    Except SystemError FileSystem :=
  match fs.get? place with
  | some .directory => .error .isDirectory
  | some (.file _ rights) => .ok (fs.setFile place content rights)
  | some (.device device) => fs.writeDevice device content
  | some (.link _) => .error .tooManyLevels
  | none =>
    if isSealed place then .error (sealedError place .permissionDenied)
    else .ok (fs.set place (.file content .ofNew))

/-- The place of a file that is to be written. A path that asks for a directory is refused before
its last name is looked at; behind a link that leads nowhere is the place that the link names. -/
def locateFile (fs : FileSystem) (p : Path) : Except SystemError Location := do
  match ← fs.locateParent p with
  | none => throw .isDirectory
  | some (_, name) =>
    if isStep name || p.endsInSeparator then throw .isDirectory
    fs.locate p

/-- Writes a file. -/
def writeBytes (fs : FileSystem) (p : Path) (content : ByteArray) :
    Except SystemError FileSystem := do
  fs.writeAt (← fs.locateFile p) content

/-- Lets a file be run. -/
def allowExecution (fs : FileSystem) (p : Path) : Except SystemError FileSystem := do
  let location ← fs.locate p
  match fs.get? location with
  | some (.file content _) => return fs.setFile location content .ofProgram
  | some _ => return fs
  | none => throw .noEntry

/-- Makes a link. The path must be free, and may not ask for a directory. -/
def makeLink (fs : FileSystem) (p : Path) (target : String) : Except SystemError FileSystem := do
  match ← fs.locateParent p with
  | none => throw .alreadyExists
  | some (parent, name) =>
    if isStep name then throw .alreadyExists
    let place ← child parent name
    match fs.get? place with
    | some _ => throw .alreadyExists
    | none =>
      if p.endsInSeparator || target.isEmpty then throw .noEntry
      if isSealed place then throw (sealedError place .notPermitted)
      return fs.set place (.link target)

end FileSystem

namespace FileM

/-- Runs a change that leaves all as it was when it fails. -/
def change (f : FileSystem → Except SystemError FileSystem) : FileM Unit := fun fs =>
  match f fs with
  | .ok fs' => (.ok (), fs')
  | .error e => (.error e, fs)

/-- Makes a directory, and is content with one that is there. -/
def ensureDirectory (p : Path) : FileM Unit := fun fs =>
  match fs.makeDirectory p with
  | .ok fs' => (.ok (), fs')
  | .error e => (if fs.isDirectory p then .ok () else .error e, fs)

/-- Makes a directory and all above it that are missing; `fuel` bounds how many there are. -/
def makeDirectoriesWithin : Nat → Path → FileM Unit
  | 0, _ => throw .noTree
  | fuel + 1, p => do
    if p.octets = "" then return
    match (← get).makeDirectory p with
    | .ok fs => set fs
    | .error .noEntry =>
      match p.parent? with
      | none => throw .noTree
      | some above =>
        makeDirectoriesWithin fuel above
        ensureDirectory p
    | .error e => if (← get).isDirectory p then return else throw e

/-- Makes a directory and all above it that are missing. -/
def makeDirectories (p : Path) : FileM Unit :=
  makeDirectoriesWithin (p.components.length + 1) p

/-- Makes the directories above a file. -/
def makeParents (p : Path) : FileM Unit :=
  match p.parent? with
  | some above => if above.octets = "" then pure () else makeDirectories above
  | none => pure ()

/-- Writes bytes to a file and makes the directories above it. -/
def writeBytesWithParents (p : Path) (content : ByteArray) : FileM Unit := do
  makeParents p
  change fun fs => fs.writeBytes p content

/-- Writes a text to a file and makes the directories above it. -/
def writeWithParents (p : Path) (content : String) : FileM Unit :=
  writeBytesWithParents p (Text.encode content)

end FileM

end UnityBuild
