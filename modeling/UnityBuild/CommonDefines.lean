import UnityBuild.SourceUnit

/-!
# Definitions that all units share

A definition that every unit has, spelled the same, is given once on the command line. The other
definitions of a unit are local to it. The set keeps the order of the first unit.
-/

namespace UnityBuild

/-- A set of definition flags, each once, in order. -/
structure CommonDefines where
  flags : List String
deriving DecidableEq, Repr

namespace CommonDefines

/-- The set of the given flags in the order of their first occurrence. -/
def ofList (flags : List String) : CommonDefines :=
  ⟨flags.eraseDups⟩

/-- The flags of the first unit that all other units have, too. -/
def hoist : List SourceUnit → CommonDefines
  | [] => ofList []
  | first :: others =>
    ofList (first.defineFlags.filter fun flag => others.all fun u => u.defineFlags.contains flag)

/-- Whether a flag is shared. -/
def contains (c : CommonDefines) (flag : String) : Bool :=
  c.flags.contains flag

/-- The definitions of a unit that are not shared, in order. -/
def localDefines (c : CommonDefines) (u : SourceUnit) : List Define :=
  u.defines.filter fun d => !c.contains d.flag

end CommonDefines

end UnityBuild
