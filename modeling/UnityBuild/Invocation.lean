import UnityBuild.Path.Basic
import UnityBuild.Text.Escaped

/-!
# Invocations of a program

An invocation is a working directory and the words of a command. The words are spelled as for a
shell, so a quote has a backslash in front of it; a program that is started directly gets the
words without these backslashes.
-/

namespace UnityBuild

/-- A command to be run in a directory. -/
structure Invocation where
  directory : Path
  arguments : List String
deriving DecidableEq, Repr

namespace Invocation

/-- The program that is run. -/
def program? (i : Invocation) : Option String :=
  i.arguments.head?

/-- The words after the program. -/
def parameters (i : Invocation) : List String :=
  i.arguments.tail

/-- The arguments that the program gets when it is started directly. -/
def processArguments (i : Invocation) : List String :=
  i.parameters.map Text.unescapeQuotesText

/-- The command as a line for a shell. -/
def shellCommand (i : Invocation) : String :=
  "(cd \"" ++ i.directory.display ++ "\" && " ++ String.intercalate " " i.arguments ++ ")"

end Invocation

end UnityBuild
