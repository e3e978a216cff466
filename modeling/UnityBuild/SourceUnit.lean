import UnityBuild.Define
import UnityBuild.Naming
import UnityBuild.Path.Basic

/-!
# Source units

A unit is one source file with the flags that it is compiled with. The flags that define macros
are kept apart from the others; both keep the order of the command line.
-/

namespace UnityBuild

/-- One source file and its flags. -/
structure SourceUnit where
  source : Path
  path : String
  flags : List String
  defines : List Define
  others : List String
deriving DecidableEq, Repr

namespace SourceUnit

/-- A unit from its flags; the first flag that is no valid definition is reported. -/
def ofFlags (source : Path) (path : String) (flags : List String) :
    Except InvalidDefine SourceUnit := do
  let defines ← (flags.filter Define.isDefineFlag).mapM Define.parse
  return ⟨source, path, flags, defines, flags.filter fun flag => !Define.isDefineFlag flag⟩

/-- The name of the unit's file among the files of the project. -/
def identifier (u : SourceUnit) : String :=
  Naming.pathIdentifier u.path

/-- Whether the unit is compiled with a macro of this name. -/
def definesMacro (u : SourceUnit) (name : String) : Bool :=
  u.defines.any fun d => d.macroName == name

/-- The flags of the unit's definitions. -/
def defineFlags (u : SourceUnit) : List String :=
  u.defines.map Define.flag

end SourceUnit

end UnityBuild
