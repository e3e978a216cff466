import UnityBuild.FileSystem.Error
import UnityBuild.Path.Basic

/-!
# File systems

A file system is a finite map from locations to what stands there. A location is the list of names
from the root, each a text of bytes; the root itself is always a directory. Everything that can be seen of a file system
is seen through `get?`, and `set` changes what is seen at one location and nowhere else.
-/

namespace UnityBuild

/-- The names from the root to a place. -/
abbrev Location := List String

/-- The path of a place. -/
def Location.path (location : Location) : Path :=
  ⟨"/" ++ String.intercalate "/" location⟩

/-- Places that keep nothing of what is written to them: one that holds nothing, one of endless
zeros, one that has no room, a terminal that is not there, and one that stands for a descriptor of
the program that opens it. -/
inductive Device where
  | null
  | zero
  | full
  | terminal
  | descriptor (number : Nat)
deriving DecidableEq, Repr

/-- The rights to read, write and run a file: three bits for the owner, the group and all others. -/
abbrev Rights := Nat

namespace Rights

/-- The rights of a file that was just made. -/
def ofNew : Rights := 0o644

/-- The rights of a program. -/
def ofProgram : Rights := 0o755

/-- The bits that let anyone run a file. -/
def runBits : Rights := 0o111

/-- Whether a file can be run by anyone. -/
def isExecutable (rights : Rights) : Bool :=
  rights &&& runBits != 0

end Rights

/-- What stands at a location. A link leads on to the path that it holds. -/
inductive Entry where
  | directory
  | file (content : ByteArray) (rights : Rights)
  | link (target : String)
  | device (device : Device)

/-- Whether an entry is a directory. -/
def Entry.isDirectory : Entry → Bool
  | directory => true
  | _ => false

/-- Whether an entry is a link. -/
def Entry.isLink : Entry → Bool
  | link _ => true
  | _ => false

/-- What stands at which location, the directory that relative paths start at, and the groups of
locations that are names of one file. -/
structure FileSystem where
  entries : List (Location × Entry)
  workingDirectory : Location
  twins : List (List Location) := []

namespace FileSystem

/-- The entry of a location in a list of entries. -/
def lookup (location : Location) : List (Location × Entry) → Option Entry
  | [] => none
  | (other, entry) :: rest => if other = location then some entry else lookup location rest

/-- Gives a location an entry; an earlier one is replaced in its place. -/
def update (location : Location) (entry : Entry) :
    List (Location × Entry) → List (Location × Entry)
  | [] => [(location, entry)]
  | (other, old) :: rest =>
    if other = location then (other, entry) :: rest else (other, old) :: update location entry rest

/-- What stands at a location. -/
def get? (fs : FileSystem) (location : Location) : Option Entry :=
  if location = [] then some .directory else lookup location fs.entries

/-- Puts an entry at a location. -/
def set (fs : FileSystem) (location : Location) (entry : Entry) : FileSystem :=
  { fs with entries := update location entry fs.entries }

/-- All locations that are names of the file at a location. -/
def namesOf (fs : FileSystem) (location : Location) : List Location :=
  (fs.twins.find? fun group => group.contains location).getD [location]

/-- Whether a plain file stands at a location. -/
def isFileAt (fs : FileSystem) (location : Location) : Bool :=
  match fs.get? location with
  | some (.file _ _) => true
  | _ => false

/-- Changes a file under all its names; where no file stands nothing is changed. -/
def setFile (fs : FileSystem) (location : Location) (content : ByteArray) (rights : Rights) :
    FileSystem :=
  (fs.namesOf location).foldl
    (fun fs name => if fs.isFileAt name then fs.set name (.file content rights) else fs) fs

/-- Makes a location another name of the file at a location. -/
def addName (fs : FileSystem) (location name : Location) (entry : Entry) : FileSystem :=
  let group := fs.namesOf location
  { fs.set name entry with
    twins := (group ++ [name]) :: fs.twins.filter fun other => !other.contains location }

/-- The entries below a location, by the names from there. -/
def below (fs : FileSystem) (location : Location) : List (Location × Entry) :=
  fs.entries.filterMap fun (other, entry) =>
    if location.isPrefixOf other && other != location then
      some (other.drop location.length, entry)
    else none

/-- Removes a location and all below it. -/
def remove (fs : FileSystem) (location : Location) : FileSystem :=
  { fs with
    entries := fs.entries.filter fun (other, _) => !location.isPrefixOf other
    twins := fs.twins.map fun group => group.filter fun other => !location.isPrefixOf other }

/-- Moves all that stands at a location or below it to another location, in place of what is
there. -/
def move (fs : FileSystem) (location goal : Location) : FileSystem :=
  let renamed (other : Location) : Location :=
    if location.isPrefixOf other then goal ++ other.drop location.length else other
  let freed := fs.remove goal
  { freed with
    entries := freed.entries.map fun (other, entry) => (renamed other, entry)
    workingDirectory := renamed freed.workingDirectory
    twins := freed.twins.map fun group => group.map renamed }

/-- Looking up after an update sees the new entry at its location and the old ones elsewhere. -/
theorem lookup_update (location other : Location) (entry : Entry)
    (entries : List (Location × Entry)) :
    lookup other (update location entry entries) =
      if other = location then some entry else lookup other entries := by
  induction entries with
  | nil => simp [lookup, update, eq_comm]
  | cons first rest ih =>
    obtain ⟨place, old⟩ := first
    by_cases hplace : place = location
    · subst hplace
      by_cases hother : place = other
      · simp [lookup, update, hother]
      · simp [lookup, update, hother, Ne.symm hother]
    · by_cases hother : place = other
      · subst hother
        simp [lookup, update, hplace]
      · simp [lookup, update, hplace, hother, ih]

/-- Setting an entry below the root changes what is seen there and nowhere else. -/
theorem get?_set (fs : FileSystem) (location other : Location) (entry : Entry)
    (hlocation : location ≠ []) :
    (fs.set location entry).get? other =
      if other = location then some entry else fs.get? other := by
  by_cases hroot : other = []
  · subst hroot
    simp [get?, Ne.symm hlocation]
  · simp [get?, set, hroot, lookup_update]

end FileSystem

end UnityBuild
