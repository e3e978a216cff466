import UnityBuild.CommandLine.Execute
import UnityBuild.Host

/-!
# What a command line looks at

A run looks at few files: those that its settings name and the programs that its compiler may be.
Knowing them, a program can read these files first, run on what it read, and write back what
changed.
-/

namespace UnityBuild.CommandLine

/-- The settings file that a command line names. -/
def settingsFile? (o : Options) (environment : Environment) : Option Path :=
  o.config.map fun file => file.resolve (projectRoot o environment)

/-- The files that a run with these settings reads or writes. -/
def runFiles (s : Settings) : List Path :=
  [s.root, s.database, s.skipList, s.outputDir.join (.ofText (s.name ++ ".c")),
    s.outputDir.join (.ofText Artifacts.databaseName)]

/-- The files that may be the compiler of a run. -/
def programFiles (host : Host) (files : FileSystem) (s : Settings) : List Path :=
  host.candidates files s.compiler

/-- The place of a path; where a place on the way is not known, the names are taken as they are. -/
def placeOf (files : FileSystem) (p : Path) : Location :=
  match files.locate p with
  | .ok place => place
  | .error _ => p.names.foldl FileSystem.stepTo (files.start p)

/-- The places of all files that a command line looks at. Without settings only the settings file
counts. -/
def footprint (o : Options) (environment : Environment) (host : Host) (files : FileSystem) :
    List Location :=
  let paths := match settingsOf o environment files with
    | .ok s => runFiles s ++ programFiles host files s
    | .error _ => []
  ((settingsFile? o environment).toList ++ paths).map (placeOf files)

/-- Whether an entry stands at a place in one file system as in the other. -/
def isUnchanged (before : FileSystem) (place : Location) (entry : Entry) : Bool :=
  match before.get? place, entry with
  | some .directory, .directory => true
  | some (.file old _), .file new _ => old.toList == new.toList
  | some (.link old), .link new => old == new
  | some (.device old), .device new => old == new
  | _, _ => false

/-- The entries that a run made or changed, in the order in which they were made. -/
def changes (before after : FileSystem) : List (Location × Entry) :=
  after.entries.filter fun (place, entry) => !isUnchanged before place entry

end UnityBuild.CommandLine
