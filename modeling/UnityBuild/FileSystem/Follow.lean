import UnityBuild.FileSystem.Basic
import UnityBuild.Text.Utf8

/-!
# Following paths

A path is followed name by name. Every place that is passed must be a directory, a parent step
leads back by one name, and only the last place may be missing. At a link the path of the link is
followed first, from the directory that the link is in; how many links there are on one way is
bounded. So every path leads to one place, and places, unlike paths, can be compared.
-/

namespace UnityBuild

namespace Path

/-- The names of a path as they are followed; steps that stay or lead back are among them. -/
def names (p : Path) : List String :=
  (pieces p.octets.toList).filterMap fun piece =>
    if piece.isEmpty then none else some (String.ofList piece)

/-- Whether a path ends in a separator behind a name. -/
def endsInSeparator (p : Path) : Bool :=
  p.octets.toList.getLast? == some '/' && !p.names.isEmpty

/-- The steps of a path: its names, and one that stays when the path asks for a directory. -/
def steps (p : Path) : List String :=
  p.names ++ if p.endsInSeparator then ["."] else []

end Path

namespace FileSystem

/-- The place that a name leads to. -/
def stepTo (location : Location) (name : String) : Location :=
  if name = "." then location
  else if name = ".." then location.dropLast
  else location ++ [name]

/-- The longest name that a file can have, in bytes. -/
def maxNameSize : Nat := 255

/-- How many links one path can lead through. -/
def maxLinks : Nat := 40

/-- Checks that a place is a directory. -/
def checkDirectory (fs : FileSystem) (location : Location) : Except SystemError Unit :=
  match fs.get? location with
  | some .directory => .ok ()
  | some _ => .error .notDirectory
  | none => .error .noEntry

/-- The link at a place, if there is one. -/
def linkAt? (fs : FileSystem) (location : Location) : Option Path :=
  match fs.get? location with
  | some (.link target) => some ⟨target⟩
  | _ => none

/-- Follows names from a place; every place that is left must be a directory. What a link leads to
is followed by `jump`, a link at the end only when that is asked for. -/
def followBy (fs : FileSystem) (through : Bool)
    (jump : Location → List String → Except SystemError Location) :
    Location → List String → Except SystemError Location
  | location, [] => .ok location
  | location, name :: names => do
    fs.checkDirectory location
    if maxNameSize < name.length then throw .nameTooLong
    match fs.linkAt? (stepTo location name) with
    | some target =>
      if names.isEmpty && !through then return stepTo location name
      else jump (if target.isAbsolute then [] else location) (target.steps ++ names)
    | none => fs.followBy through jump (stepTo location name) names

/-- Follows names from a place through at most so many links. -/
def followWithin (fs : FileSystem) (through : Bool) :
    Nat → Location → List String → Except SystemError Location
  | 0 => fs.followBy through fun _ _ => .error .tooManyLevels
  | links + 1 => fs.followBy through (fs.followWithin through links)

/-- Follows names from a place. -/
def follow (fs : FileSystem) (location : Location) (names : List String) :
    Except SystemError Location :=
  fs.followWithin true maxLinks location names

/-- The place at which a path starts. -/
def start (fs : FileSystem) (p : Path) : Location :=
  if p.isAbsolute then [] else fs.workingDirectory

/-- Refuses texts that are no path of the system. -/
def checkText (p : Path) : Except SystemError Unit :=
  if p.octets.toList.contains '\x00' then .error .nulInPath
  else if p.octets = "" then .error .noEntry
  else if 4096 ≤ p.octets.length then .error .nameTooLong
  else .ok ()

/-- The place that a path leads to. A separator at the end asks for a directory. -/
def locate (fs : FileSystem) (p : Path) : Except SystemError Location := do
  checkText p
  fs.follow (fs.start p) p.steps

/-- The place that a path names: a link at its end is that place itself. -/
def locateLink (fs : FileSystem) (p : Path) : Except SystemError Location := do
  checkText p
  fs.followWithin false maxLinks (fs.start p) p.steps

/-- What stands at a place that was found. -/
def present (fs : FileSystem) (location : Location) : Except SystemError Entry :=
  match fs.get? location with
  | some entry => .ok entry
  | none => .error .noEntry

/-- What a path leads to. -/
def entryAt (fs : FileSystem) (p : Path) : Except SystemError Entry := do
  fs.present (← fs.locate p)

/-- What a path names, which can be a link. -/
def linkEntryAt (fs : FileSystem) (p : Path) : Except SystemError Entry := do
  fs.present (← fs.locateLink p)

/-- Whether a path leads to a directory. -/
def isDirectory (fs : FileSystem) (p : Path) : Bool :=
  match fs.entryAt p with
  | .ok .directory => true
  | _ => false

/-- Whether a path names a link. -/
def isLink (fs : FileSystem) (p : Path) : Bool :=
  match fs.linkEntryAt p with
  | .ok (.link _) => true
  | _ => false

/-- Whether a path leads to a file that can be run. -/
def isExecutable (fs : FileSystem) (p : Path) : Bool :=
  match fs.entryAt p with
  | .ok (.file _ rights) => rights.isExecutable
  | _ => false

/-- How much of an endless device is read at once. -/
def deviceBlock : Nat := 1048576

/-- What can be read from a device. -/
def readDevice : Device → Except SystemError ByteArray
  | .null => .ok .empty
  | .descriptor _ => .ok .empty
  | .zero => .ok ⟨Array.replicate deviceBlock 0⟩
  | .full => .ok ⟨Array.replicate deviceBlock 0⟩
  | .terminal => .error .noDevice

/-- The bytes of a file. -/
def readBytes (fs : FileSystem) (p : Path) : Except SystemError ByteArray := do
  match ← fs.entryAt p with
  | .directory => throw .isDirectory
  | .file content _ => return content
  | .device device => readDevice device
  | .link _ => throw .tooManyLevels

/-- The text of a file. -/
def readText (fs : FileSystem) (p : Path) : Except SystemError String := do
  match Text.decode? (← fs.readBytes p) with
  | some text => return text
  | none => throw .notUtf8

end FileSystem

end UnityBuild
