import UnityBuild.CommandLine.Footprint
import UnityBuild.FileSystem.Standard

/-!
# The program

The program reads the files that its command line looks at, carries the command line out on what
it read, and writes back what changed. All decisions are made by `CommandLine.execute`.
-/

namespace UnityBuild

/-- Reads what stands at a place. The rights of files are not seen, so every file may be run. -/
def readEntry (place : Location) : IO (Option Entry) := do
  match ← (IO.FS.readBinFile place.path.display).toBaseIO with
  | .ok content => return some (.file content .ofProgram)
  | .error (.noFileOrDirectory ..) => return none
  | .error _ => return some .directory

/-- Adds what stands on the way to a place to the files that are known. -/
def readAlong (files : FileSystem) (place : Location) : IO FileSystem :=
  (List.range place.length).foldlM (fun files i => do
    let part := place.take (i + 1)
    if (files.get? part).isSome then return files
    match ← readEntry part with
    | some entry => return files.set part entry
    | none => return files) files

/-- Adds what stands on the way to the places that a command line looks at; what the settings file
names is known only after it was read. -/
def readFootprint (options : CommandLine.Options) (environment : CommandLine.Environment)
    (host : Host) (files : FileSystem) : IO FileSystem := do
  let files ← (CommandLine.footprint options environment host files).foldlM readAlong files
  (CommandLine.footprint options environment host files).foldlM readAlong files

/-- Writes an entry to its place; only files and directories are made. -/
def writeEntry (place : Location) : Entry → IO Unit
  | .directory => IO.FS.createDirAll place.path.display
  | .file content _ => IO.FS.writeBinFile place.path.display content
  | .link _ => return ()
  | .device _ => return ()

/-- The directories in which programs are looked for. -/
def searchDirectories (text : String) : List Path :=
  (Text.splitAt (· == ':') text.toList).map fun piece => .ofText (String.ofList piece)

/-- Carries out a command line and gives its outcome. -/
def runProgram (arguments : List String) : IO CommandLine.Outcome := do
  let arguments := arguments.map Text.toOctets
  let here := Path.ofText (← IO.currentDir).toString
  let environment : CommandLine.Environment := ⟨here, ← IO.getEnv "CC"⟩
  let search := (← IO.getEnv "PATH").getD ""
  let home := (← IO.getEnv "HOME").toList.map fun path => ("HOME", Text.toOctets path)
  let host : Host := ⟨searchDirectories search, home⟩
  let known := Shell.install ["usr", "bin"]
    { FileSystem.standard with workingDirectory := here.names }
  let before ← match CommandLine.Options.read arguments with
    | .ok options => readFootprint options environment host known
    | .error _ => pure known
  let (result, state) :=
    (CommandLine.execute environment host.compiler arguments).run.run ⟨before, []⟩
  for (place, entry) in CommandLine.changes before state.files do
    writeEntry place entry
  return .of result

end UnityBuild

/-- Runs the program and gives its exit code. -/
def main (arguments : List String) : IO UInt32 := do
  let outcome ← UnityBuild.runProgram arguments
  IO.print outcome.output
  for text in outcome.errors do
    IO.eprintln text
  return outcome.exitCode.toUInt32
