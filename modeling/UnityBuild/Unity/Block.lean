import UnityBuild.CommonDefines
import UnityBuild.Renaming

/-!
# Blocks of the merged source

The merged source is a list of blocks. Each block includes one source file between the
definitions and renamings that hold for this file alone, and takes all of them back afterwards in
reverse order. A first block sets up the headers of the platform.

Lines are kept as directives and written as text at the end, so what a block does to the macros in
force can be stated on the directives.
-/

namespace UnityBuild.Unity

/-- One line of the merged source. -/
inductive Directive where
  | define (definition : Define)
  | rename (change : Renaming)
  | includeHeader (name : String)
  | includeFile (path : String)
  | undefine (name : String)
deriving DecidableEq, Repr

/-- The text of a line. -/
def Directive.text : Directive → String
  | define definition => definition.defineDirective
  | rename change => "#define " ++ change.identifier ++ " " ++ change.newName
  | includeHeader name => "#include <" ++ name ++ ">"
  | includeFile path => "#include \"" ++ path ++ "\""
  | undefine name => "#undef " ++ name

/-- A block of lines; `path` names the file that it includes. -/
structure Block where
  path : Option String
  lines : List Directive
deriving DecidableEq, Repr

namespace Block

/-- The macro under which the headers of the platform offer all they have. -/
def platformMacro : Define :=
  ⟨"_GNU_SOURCE", some "", "-D_GNU_SOURCE="⟩

/-- Includes the headers that have to be seen first with the platform macro. -/
def bootstrap : Block where
  path := none
  lines := [.define platformMacro, .includeHeader "pthread.h", .includeHeader "sched.h",
    .undefine platformMacro.macroName]

/-- The lines in front of the include: what holds for this file alone. -/
def opening (defines : List Define) (renamings : List Renaming) : List Directive :=
  defines.map .define ++ renamings.map .rename

/-- The lines behind the include: all names of the opening in reverse order. -/
def closing (defines : List Define) (renamings : List Renaming) : List Directive :=
  (defines.map Define.macroName ++ renamings.map Renaming.identifier).reverse.map .undefine

/-- The block of a unit. -/
def ofUnit (u : SourceUnit) (common : CommonDefines) (table : RenamingTable) : Block :=
  let defines := common.localDefines u
  let renamings := table.renamingsFor u.path u.identifier
  { path := some u.path
    lines := opening defines renamings ++ .includeFile u.path :: closing defines renamings }

/-- The lines as texts. -/
def texts (b : Block) : List String :=
  b.lines.map Directive.text

/-- The text of the block. -/
def render (b : Block) : String :=
  String.intercalate "\n" b.texts

end Block

end UnityBuild.Unity
