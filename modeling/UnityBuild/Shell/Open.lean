import UnityBuild.Shell.State

/-!
# Opening files

A file is opened at the place that its path leads to. The places of descriptors stand for what the
descriptors of the program itself lead to: a file is opened there once more, from its start, and
everything else is shared.

Main definitions: `openPath`, `readPath` and `writePath`.
-/

namespace UnityBuild.Shell

/-- The descriptor that a place stands for, if it stands for one. -/
def descriptorAt? : Location → Option Nat
  | ["proc", "self", "fd", number] => countOf? number
  | _ => none

/-- Opens a place for reading. -/
def openToRead (files : FileSystem) (place : Location) : Except SystemError OpenFile := do
  match ← files.present place with
  | .device .null => return { channel := .nowhere }
  | .device .terminal => throw .noDevice
  | .device device => return { channel := .device device }
  | _ => return { channel := .file place, writable := false }

/-- Opens a place for writing, and makes a file there if nothing is there. A place that must not be
overwritten is refused. -/
def openToWrite (files : FileSystem) (mode : OpenMode) (keeps : Bool) (place : Location) :
    Except SystemError (OpenFile × FileSystem) := do
  match files.get? place with
  | some (.device .null) => return ({ channel := .nowhere }, files)
  | some (.device .terminal) => throw .noDevice
  | some (.device device) => return ({ channel := .device device }, files)
  | old =>
    let content ← match mode, old with
      | .append, some (.file content _) => pure content
      | .readWrite, some (.file content _) => pure content
      | _, some (.file ..) => if keeps then throw .alreadyExists else pure .empty
      | _, _ => pure .empty
    let files ← files.writeAt place content
    return ({ channel := .file place, readable := mode = .readWrite, appends := mode = .append },
      files)

/-- Opens a place under a new number. -/
def openPlace (mode : OpenMode) (keeps : Bool) (place : Location) :
    ShellM (Except SystemError Nat) := do
  let files := (← get).files
  if mode = .read then
    match openToRead files place with
    | .error error => return .error error
    | .ok file => return .ok (← openNew file)
  else
    match openToWrite files mode keeps place with
    | .error error => return .error error
    | .ok (file, files) =>
      modify fun s => { s with files := files }
      return .ok (← openNew file)

/-- The place of a path that is to be opened, whether anything is there or not. -/
def placeToOpen (files : FileSystem) (mode : OpenMode) (path : String) :
    Except SystemError Location := do
  if path.isEmpty then throw .noEntry
  if mode = .read then files.locate ⟨path⟩ else files.locateFile ⟨path⟩

/-- Opens a path and gives the number that it was opened under. -/
def openPath (mode : OpenMode) (keeps : Bool) (path : String) :
    ShellM (Except SystemError Nat) := do
  match placeToOpen (← get).files mode path with
  | .error error => return .error error
  | .ok place =>
    match descriptorAt? place with
    | none => openPlace mode keeps place
    | some descriptor =>
      match ← fileOf? descriptor with
      | none => return .error .noEntry
      | some (number, file) =>
        match file.channel with
        | .file place => openPlace mode keeps place
        | _ => return .ok number

/-- Why nothing can be read from an open file, if so. -/
def readProblem? (files : FileSystem) (file : OpenFile) : Option SystemError :=
  match file.channel with
  | .file place =>
    match files.get? place with
    | some .directory => some .isDirectory
    | _ => if file.readable then none else some .badDescriptor
  | _ => if file.readable then none else some .badDescriptor

/-- Reads all that is left behind a descriptor. -/
def readDescriptor (descriptor : Nat) : ShellM (Except SystemError ByteArray) := do
  match ← fileOf? descriptor with
  | none => return .error .badDescriptor
  | some (_, file) =>
    match readProblem? (← get).files file with
    | some error => return .error error
    | none => return .ok ((← readAll? descriptor).getD .empty)

/-- The content of what a path leads to. -/
def readPath (path : String) : ShellM (Except SystemError ByteArray) := do
  let files := (← get).files
  match files.locate ⟨path⟩ with
  | .error error => return .error error
  | .ok place =>
    match descriptorAt? place with
    | none => return files.readBytes ⟨path⟩
    | some descriptor =>
      match ← fileOf? descriptor with
      | some (_, { channel := .file place, .. }) => return files.readBytes place.path
      | some _ => readDescriptor descriptor
      | none => return .error .noEntry

/-- Lets an open file keep what it leads to when that loses its place. -/
def OpenFile.detach (files : FileSystem) (place : Location) (file : OpenFile) : OpenFile :=
  match file.channel with
  | .file other =>
    if place.isPrefixOf other then
      match files.get? other with
      | some (.file content _) => { file with channel := .memory content }
      | _ => file
    else file
  | _ => file

/-- Lets an open file follow a file that is moved. -/
def OpenFile.moved (place goal : Location) (file : OpenFile) : OpenFile :=
  match file.channel with
  | .file other =>
    if place.isPrefixOf other then
      { file with channel := .file (goal ++ other.drop place.length) }
    else file
  | _ => file

/-- Removes a place; files that are open stay readable. -/
def removePlace (place : Location) : ShellM Unit :=
  modify fun s => { s with
    opened := s.opened.map (·.detach s.files place)
    files := s.files.remove place }

/-- Moves a place to another; files that are open stay so. -/
def movePlace (place goal : Location) : ShellM Unit :=
  modify fun s => { s with
    opened := (s.opened.map (·.detach s.files goal)).map (·.moved place goal)
    files := s.files.move place goal }

/-- Writes bytes to what a path leads to, behind what is there or in its place. -/
def writePath (appends : Bool) (path : String) (bytes : ByteArray) :
    ShellM (Except SystemError Unit) := do
  match ← openPath (if appends then .append else .write) false path with
  | .error error => return .error error
  | .ok number =>
    let before := (← getSession).descriptors
    let unused := before.foldl (fun most entry => max most (entry.1 + 1)) 0
    connect unused number
    let written ← emit unused bytes
    changeSession fun s => { s with descriptors := before }
    return if written then .ok () else .error .noSpace

end UnityBuild.Shell
