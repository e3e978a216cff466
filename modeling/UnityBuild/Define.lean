import UnityBuild.Text.Escaped
import UnityBuild.Text.Split

/-!
# Macro definitions on a command line

A flag that starts with `-D` defines a macro: the part up to the first equals sign is its name,
with its parameters if it takes any, and the rest is its value, in which a quote may be written
with a backslash. The same definition can be written as a directive of the preprocessor.
-/

namespace UnityBuild

/-- A flag that does not define a macro, or that names none. -/
structure InvalidDefine where
  flag : String
deriving DecidableEq, Repr

/-- The text of the error. -/
def InvalidDefine.message (e : InvalidDefine) : String :=
  "Invalid define flag: " ++ e.flag

/-- A macro definition as a flag gives it. -/
structure Define where
  name : String
  value : Option String
  flag : String
deriving DecidableEq, Repr

namespace Define

/-- What follows the two characters that mark a definition. -/
def body? : List Char → Option (List Char)
  | '-' :: 'D' :: body => some body
  | _ => none

/-- Whether a flag is meant to define a macro. -/
def isDefineFlag (flag : String) : Bool :=
  (body? flag.toList).isSome

/-- Reads a flag as a definition. -/
def parse (flag : String) : Except InvalidDefine Define :=
  match body? flag.toList with
  | none => .error ⟨flag⟩
  | some body =>
    match Text.cutAt '=' body with
    | ([], _) => .error ⟨flag⟩
    | (name, value) =>
      .ok ⟨String.ofList name, value.map (fun v => String.ofList (Text.unescapeQuotes v)), flag⟩

/-- The name of the macro without its parameters. -/
def macroName (d : Define) : String :=
  String.ofList (d.name.toList.takeWhile (· != '('))

/-- What the macro stands for in a directive, with the blank in front of it. -/
def replacementText : Option String → String
  | none => " 1"
  | some value => if value = "" then "" else " " ++ value

/-- The directive that defines the macro. -/
def defineDirective (d : Define) : String :=
  "#define " ++ d.name ++ replacementText d.value

/-- The directive that ends the definition. -/
def undefDirective (d : Define) : String :=
  "#undef " ++ d.macroName

end Define

end UnityBuild
