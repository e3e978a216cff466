import UnityBuild.Shell.Evaluate

/-!
# Running a program

A program is started in the working directory with nothing to read; what it writes to its output
is lost, and what it writes to its errors is kept.

Main definition: `Shell.execute`.
-/

namespace UnityBuild.Shell

/-- What a program leaves behind; one that a signal ended has no status. -/
structure Result where
  status : Option Nat
  errors : ByteArray
  files : FileSystem

/-- The number of the process that a program is started in. -/
def firstProcess : Nat := 4242

/-- The state in which a program is started. -/
def startState (files : FileSystem) (environment : List (String × String)) : State :=
  { session :=
      { name := ""
        bindings := environment.map fun (name, value) => (name, ⟨some value, true, false⟩)
        descriptors := [(0, 0), (1, 1), (2, 2)]
        number := firstProcess
        process := firstProcess }
    files := files
    opened := #[{ channel := .nowhere }, { channel := .nowhere }, { channel := .memory .empty }]
    lastProcess := firstProcess }

/-- Starts the program at a path with its arguments. -/
def execute (files : FileSystem) (environment : List (String × String)) (path : String)
    (arguments : List String) : Except SystemError Result := do
  let start := startState files environment
  let loaded ← Program.load files programNames path (path :: arguments)
    (environmentTexts start.session)
  let action := do
    let result ← attempt (runLoaded (evaluate maxDepth) maxStarts loaded)
    let _ ← attempt do
      awaitAll (evaluate maxDepth)
      return 0
    return result
  let (result, final) := action.run.run start
  let status := match result with
    | .ok (.exited status) => some (status % 256)
    | _ => none
  return ⟨status, final.remembered 2, final.files⟩

/-- Puts the files of all programs into a directory, which is made if it is missing. -/
def install (directory : Location) (files : FileSystem) : FileSystem :=
  let files := (List.range directory.length).foldl (fun files i =>
    files.set (directory.take (i + 1)) .directory) files
  programNames.foldl (fun files name =>
    files.set (directory ++ [name]) (.file (Program.image name) .ofProgram)) files

end UnityBuild.Shell
