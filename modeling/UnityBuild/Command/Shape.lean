import UnityBuild.Path.Basic

/-!
# The shape of a compile command

All commands of a database are spelled alike: fixed tokens at the start, the flags, and fixed
tokens at the end. A shape lists what is expected in the fixed places. Taking the flags out of a
command checks every fixed place, the start before the end.

Main definition: `Shape.flags`.
-/

namespace UnityBuild.Command

/-- What is expected in one place of a command. -/
inductive TokenShape where
  | any (label : String)
  | literal (token : String)
deriving DecidableEq, Repr

namespace TokenShape

/-- Whether a token can stand in the place. -/
def accepts : TokenShape → String → Bool
  | any _, _ => true
  | literal expected, token => token == expected

/-- How the place is shown. -/
def text : TokenShape → String
  | any label => "<" ++ label ++ ">"
  | literal token => token

end TokenShape

/-- The fixed places around the flags of a command. -/
structure Shape where
  leading : List TokenShape
  trailing : List TokenShape
deriving DecidableEq, Repr

/-- Why the flags of a command could not be found. -/
inductive ShapeFault where
  | tooFewTokens (shape : Shape) (found : Nat)
  | unexpectedToken (shape : Shape) (expected : TokenShape) (found : String)
  | danglingDefine
deriving DecidableEq, Repr

namespace Shape

/-- A compiler, the flags, and the output and the input with their options. -/
def standard : Shape where
  leading := [.any "compiler"]
  trailing := [.literal "-o", .any "output", .literal "-c", .any "input"]

/-- How many tokens a command has at least. -/
def minTokens (s : Shape) : Nat :=
  s.leading.length + s.trailing.length

/-- How the shape is shown. -/
def text (s : Shape) : String :=
  String.intercalate " " (s.leading.map TokenShape.text) ++ " <flags...> "
    ++ String.intercalate " " (s.trailing.map TokenShape.text)

/-- The first place whose token is not expected there. -/
def firstMismatch? (places : List (TokenShape × String)) : Option (TokenShape × String) :=
  places.find? fun place => !place.1.accepts place.2

/-- The fixed places of a shape with the tokens of a command that stand in them. -/
def places (s : Shape) (tokens : List String) : List (TokenShape × String) :=
  s.leading.zip tokens ++ s.trailing.zip (tokens.drop (tokens.length - s.trailing.length))

/-- The tokens between the fixed places. -/
def middle (s : Shape) (tokens : List String) : List String :=
  (tokens.take (tokens.length - s.trailing.length)).drop s.leading.length

/-- The flags of a command. -/
def flags (s : Shape) (tokens : List String) : Except ShapeFault (List String) :=
  if tokens.length < s.minTokens then .error (.tooFewTokens s tokens.length)
  else match firstMismatch? (s.places tokens) with
    | some (expected, found) => .error (.unexpectedToken s expected found)
    | none => .ok (s.middle tokens)

end Shape

/-- The text of a fault. -/
def ShapeFault.message : ShapeFault → String
  | tooFewTokens shape found =>
    "expected at least " ++ toString shape.minTokens ++ " tokens (" ++ shape.text ++ "), found "
      ++ toString found
  | unexpectedToken shape expected found =>
    "expected `" ++ expected.text ++ "` but found `" ++ found ++ "` (convention: " ++ shape.text
      ++ ")"
  | danglingDefine => "`-D` without a macro definition"

end UnityBuild.Command
