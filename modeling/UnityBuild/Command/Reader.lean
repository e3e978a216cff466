import UnityBuild.Command.Shape
import UnityBuild.CompileRecord
import UnityBuild.SourceUnit

/-!
# Units from compile records

A record becomes a unit in three steps: the flags are taken out of the command, a definition that
was written as two tokens is joined into one, and the flags that the project refuses are dropped.
The first record that fails stops the reading.
-/

namespace UnityBuild.Command

/-- Why a record is no unit. -/
inductive ReadError where
  | shape (file : Path) (fault : ShapeFault)
  | define (error : InvalidDefine)
deriving DecidableEq, Repr

/-- The text of the error. -/
def ReadError.message : ReadError → String
  | shape file fault =>
    "Unexpected invocation shape for " ++ file.display ++ ": " ++ fault.message
  | define error => error.message

/-- Joins the option `-D` with the token after it. -/
def joinDefines : List String → Except ShapeFault (List String)
  | [] => .ok []
  | [flag] => if flag = "-D" then .error .danglingDefine else .ok [flag]
  | flag :: next :: flags =>
    if flag = "-D" then (joinDefines flags).map fun joined => ("-D" ++ next) :: joined
    else (joinDefines (next :: flags)).map fun joined => flag :: joined

/-- How the commands of a project are read: its root, the shape of the commands, and the flags
that are dropped. -/
structure Reader where
  root : Path
  shape : Shape
  denied : List String

namespace Reader

/-- The flags of a record that the project keeps. -/
def keptFlags (reader : Reader) (tokens : List String) : Except ShapeFault (List String) := do
  let raw ← reader.shape.flags tokens
  let joined ← joinDefines raw
  return joined.filter fun flag => !reader.denied.contains flag

/-- The unit of a record. -/
def read (reader : Reader) (record : CompileRecord) : Except ReadError SourceUnit := do
  let flags ← (reader.keptFlags record.tokens).mapError (.shape record.sourcePath)
  (SourceUnit.ofFlags record.sourcePath (record.relativeSource reader.root) flags).mapError .define

/-- The units of all records; the first failure is reported. -/
def readAll (reader : Reader) (records : List CompileRecord) : Except ReadError (List SourceUnit) :=
  records.mapM reader.read

end Reader

end UnityBuild.Command
