import UnityBuild.Text.WordChar

/-!
# Names for files and their identifiers

Each source file gets a name of its own, made from its path: word characters stay, and every run
of other characters becomes one underscore. An identifier that clashes is renamed by putting the
file's name and two underscores in front of it.
-/

namespace UnityBuild.Naming

/-- Replaces runs of characters that are no word characters by one underscore each; `inRun` tells
whether the last character seen belongs to such a run. -/
def collapseRuns (inRun : Bool) : List Char → List Char
  | [] => []
  | c :: s =>
    if Text.isWordChar c then c :: collapseRuns false s
    else if inRun then collapseRuns true s
    else '_' :: collapseRuns true s

/-- The name of a file, from its path. -/
def pathIdentifier (path : String) : String :=
  String.ofList (collapseRuns false path.toList)

/-- Stands between the name of a file and an identifier of it. -/
def separator : String := "__"

/-- The name under which an identifier of a file is known outside it. -/
def qualify (fileName identifier : String) : String :=
  fileName ++ separator ++ identifier

/-- The characters that an identifier of C can start with. -/
def isIdentifierStart (c : Char) : Bool :=
  c.isAlpha || c == '_'

/-- The characters that an identifier of C can go on with. -/
def isIdentifierRest (c : Char) : Bool :=
  isIdentifierStart c || c.isDigit

/-- Whether characters form an identifier of C. -/
def isIdentifierChars : List Char → Bool
  | [] => false
  | c :: s => isIdentifierStart c && s.all isIdentifierRest

/-- Whether a text is an identifier of C. -/
def isIdentifier (name : String) : Bool :=
  isIdentifierChars name.toList

end UnityBuild.Naming
