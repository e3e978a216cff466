import UnityBuild.Compiler
import UnityBuild.Shell.Run

/-!
# Programs on a host

A host finds programs by name in its search path, or by their path, and starts them in a
directory.

Main definition: `Host.compiler`, the compiler that starts the program of an invocation.
-/

namespace UnityBuild

/-- Where programs are looked for, and the other variables that they get to see, as bytes. -/
structure Host where
  searchPath : List Path
  environment : List (String × String)

namespace Host

/-- All variables that programs get to see. -/
def seen (host : Host) : List (String × String) :=
  ("PATH", String.intercalate ":" (host.searchPath.map Path.octets)) :: host.environment

/-- Where a program is looked for. A path of several components is taken as it is, from the
working directory; any other name is looked for in the search path. -/
def candidates (host : Host) (files : FileSystem) (program : String) : List Path :=
  let path := Path.ofText program
  if 1 < path.components.length then [files.workingDirectory.path.join path]
  else host.searchPath.map fun directory => directory.join path

/-- Finds a program. -/
def find? (host : Host) (files : FileSystem) (program : String) : Option Path :=
  (host.candidates files program).find? files.isExecutable

/-- Starts a program in a directory. Nothing that is handed to a program holds a NUL. -/
def startIn (host : Host) (files : FileSystem) (directory path : Path) (arguments : List String) :
    Except SystemError Shell.Result := do
  if (directory.octets :: arguments).any (·.toList.contains '\x00') then throw .nulInArgument
  let place ← files.locate directory
  files.checkDirectory place
  let result ← Shell.execute { files with workingDirectory := place } host.seen
    path.octets (arguments.map Text.toOctets)
  return { result with
    files := { result.files with workingDirectory := files.workingDirectory } }

/-- The compiler that starts the program of an invocation and reads what it writes to its stream
for errors. -/
def compiler (host : Host) : Compiler := fun _ invocation files =>
  match invocation.program? with
  | none => (.error .emptyInvocation, files)
  | some program =>
    match host.find? files program with
    | none => (.error (.notFound program), files)
    | some path =>
      match host.startIn files invocation.directory path invocation.processArguments with
      | .error e => (.error (.notLaunched program e), files)
      | .ok result =>
        let text := Text.decodeLossy result.errors
        (.ok ⟨result.status, result.status = some 0, text⟩, result.files)

end Host

end UnityBuild
