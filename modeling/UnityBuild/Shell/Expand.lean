import UnityBuild.Shell.Arithmetic
import UnityBuild.Shell.Glob

/-!
# Replacing the parts of words

Parameters are replaced by their values, commands by what they write, and expressions by their
numbers. How commands are run is a parameter of this module.

Main definitions: `expandFields`, the words that a word stands for, and `expandText`, the one text
that it stands for where words are not split.
-/

namespace UnityBuild.Shell

/-- The value of a parameter. -/
inductive ParameterValue where
  | unset
  | text (s : String)
  | arguments (all : List String)

/-- What joins all arguments to one text. -/
def Session.joint (s : Session) : String :=
  String.ofList (s.separators.toList.take 1)

/-- The letters of all options, in the order in which those that are set are told. -/
def optionLetters : List Char :=
  ['p', 'u', 'b', 'a', 'C', 'E', 'V', 'v', 'x', 's', 'n', 'm', 'i', 'I', 'f', 'e']

/-- The letters of the options that are set. -/
def Session.optionText (s : Session) : String :=
  String.ofList (optionLetters.filter s.has)

/-- The value of a parameter. -/
def Session.parameter (s : Session) (name : String) : ParameterValue :=
  match name with
  | "@" => .arguments s.arguments
  | "*" => .arguments s.arguments
  | "#" => .text (toString s.arguments.length)
  | "?" => .text (toString s.status)
  | "$" => .text (toString s.number)
  | "-" => .text s.optionText
  | "0" => .text s.name
  | "!" => (s.background.map fun n => .text (toString n)).getD .unset
  | name =>
    let value := match name.toNat? with
      | some 0 => some s.name
      | some (n + 1) => s.arguments[n]?
      | none => s.value? name
    (value.map .text).getD .unset

/-- The pieces of all arguments. -/
def argumentPieces (quoted : Bool) : List String → List Piece
  | [] => []
  | [argument] => [if quoted then .fixed argument true else .loose argument]
  | argument :: others =>
    (if quoted then .fixed argument true else .loose argument) :: .endField ::
      argumentPieces quoted others

/-- The pieces of a text. -/
def textPieces (quoted : Bool) (text : String) : List Piece :=
  [if quoted then .fixed text true else .loose text]

/-- The pieces of a value. -/
def valuePieces (s : Session) (name : String) (quoted : Bool) : ParameterValue → List Piece
  | .unset => if quoted then [.fixed "" true] else []
  | .text text => textPieces quoted text
  | .arguments all =>
    if name = "*" ∧ quoted then [.fixed (String.intercalate s.joint all) true]
    else argumentPieces quoted all

/-- The text of a value. -/
def valueText (s : Session) : ParameterValue → Option String
  | .unset => none
  | .text text => some text
  | .arguments all => some (String.intercalate s.joint all)

/-- Whether a value counts as one. -/
def counts (orNull : Bool) : Option String → Bool
  | none => false
  | some text => !(orNull && text.isEmpty)

/-- Refuses a parameter without a value when the session asks for that. -/
def checkSet (name : String) (value : Option String) : ShellM Unit := do
  if value.isNone && (← getSession).has 'u' then fail (name ++ ": parameter not set")

/-- The complaint about a parameter without a value. -/
def unsetText (orNull : Bool) : String :=
  if orNull then "parameter not set or null" else "parameter not set"

/-- Drops a part of a text by a pattern. -/
def dropPart (modifier : Modifier) (pattern : Pattern) (text : String) : String :=
  let s := text.toList
  String.ofList (match modifier with
    | .dropFront false => pattern.dropShortestFront s
    | .dropFront true => pattern.dropLongestFront s
    | .dropBack false => pattern.dropShortestBack s
    | .dropBack true => pattern.dropLongestBack s
    | _ => s)

/-- The pieces of a parameter, given how the word behind its modifier is replaced. -/
def expandParameter (word : ShellM (List Piece)) (name : String) (modifier : Modifier)
    (quoted : Bool) : ShellM (List Piece) := do
  let s ← getSession
  let value := s.parameter name
  let text := valueText s value
  let inner : ShellM (List Piece) := do
    let pieces ← word
    if quoted then return if pieces.isEmpty then [.fixed "" true] else pieces
    else return pieces.map Piece.loosen
  match modifier with
  | .unknown => fail "Bad substitution"
  | .value =>
    checkSet name text
    return valuePieces s name quoted value
  | .length =>
    checkSet name text
    return textPieces quoted (toString (text.getD "").length)
  | .orElse orNull => if counts orNull text then return valuePieces s name quoted value else inner
  | .andThen orNull =>
    if counts orNull text then inner else return if quoted then [.fixed "" true] else []
  | .orFail orNull =>
    if counts orNull text then return valuePieces s name quoted value
    let complaint := textOf s.joint (← word)
    fail (name ++ ": " ++ if complaint.isEmpty then unsetText orNull else complaint)
  | .orAssign orNull =>
    if counts orNull text then return valuePieces s name quoted value
    let new := textOf s.joint (← word)
    if !isName name then fail (name ++ ": bad variable name")
    setVariable name new
    return textPieces quoted new
  | modifier =>
    checkSet name text
    let pattern := patternOfPieces s.joint (← word)
    return textPieces quoted (dropPart modifier pattern (text.getD ""))

/-- The value of an expression. -/
def calculate (text : String) : ShellM Int := do
  let s ← getSession
  match Arithmetic.evaluate s.value? text with
  | .ok (n, assigned) =>
    assigned.forM fun (name, value) => setVariable name (toString value)
    return n
  | .error (.expression problem) =>
    fail ("arithmetic expression: " ++ problem ++ ": \"" ++ text ++ "\"")
  | .error (.badNumber number) => fail ("Illegal number: " ++ number)

mutual

/-- The pieces of a part of a word. -/
def expandPart (run : Command → ShellM String) : Part → ShellM (List Piece)
  | .text chars quoted => return [.fixed chars quoted]
  | .parameter name modifier word quoted =>
    expandParameter (expandParts run word) name modifier quoted
  | .command body quoted => do return textPieces quoted (← run body)
  | .arithmetic expression quoted => do
    let s ← getSession
    let n ← calculate (textOf s.joint (← expandParts run expression))
    return textPieces quoted (toString n)

/-- The pieces of parts of a word. -/
def expandParts (run : Command → ShellM String) : List Part → ShellM (List Piece)
  | [] => return []
  | part :: parts => do
    let front ← expandPart run part
    return front ++ (← expandParts run parts)

end

/-- The directory that a tilde with a name stands for. -/
def homeOf? (s : Session) (name : String) : Option String :=
  if name.isEmpty then s.value? "HOME"
  else if name = "root" then some "/root"
  else none

/-- Replaces a tilde at the start of characters up to the sign that ends its name. -/
def replaceTilde (s : Session) (ends : Char → Bool) (last : Bool) (chars : List Char) :
    List Part :=
  match chars with
  | '~' :: rest =>
    let name := rest.takeWhile fun c => !ends c
    let behind := rest.drop name.length
    match homeOf? s (String.ofList name) with
    | some home =>
      if behind.isEmpty && !last then [.text (String.ofList chars) false]
      else [.text home true, .text (String.ofList behind) false]
    | none => [.text (String.ofList chars) false]
  | chars => [.text (String.ofList chars) false]

/-- Replaces a tilde at the start of a word. -/
def tildeWord (s : Session) (w : Word) : Word :=
  match w with
  | .text chars false :: parts =>
    if chars.toList.head? = some '~' then
      replaceTilde s (· == '/') parts.isEmpty chars.toList ++ parts
    else w
  | w => w

/-- Cuts characters at colons. -/
def cutColons : List Char → List (List Char)
  | [] => [[]]
  | ':' :: s => [] :: cutColons s
  | c :: s =>
    match cutColons s with
    | piece :: pieces => (c :: piece) :: pieces
    | [] => [[c]]

/-- Replaces tildes behind colons in the pieces of an assigned text. -/
def tildePieces (s : Session) (last : Bool) : List (List Char) → List Part
  | [] => []
  | [piece] => replaceTilde s (· == '/') last piece
  | piece :: pieces =>
    replaceTilde s (· == '/') true piece ++ .text ":" false :: tildePieces s last pieces

/-- Replaces the tildes of a word that is assigned. -/
def tildeValue (s : Session) (w : Word) : Word :=
  match w with
  | .text chars false :: parts =>
    if chars.toList.contains '~' then
      tildePieces s parts.isEmpty (cutColons chars.toList) ++ parts
    else w
  | w => w

section Words

variable (run : Command → ShellM String)

/-- The words that a word stands for. -/
def expandFields (w : Word) : ShellM (List String) := do
  let pieces ← expandParts run (tildeWord (← getSession) w)
  let s ← get
  let fields := fieldsOf s.session.separators pieces
  if s.session.has 'f' then return fields.map Field.text
  else return fields.flatMap (Field.paths s.files)

/-- The words that several words stand for. -/
def expandAll : List Word → ShellM (List String)
  | [] => return []
  | w :: words => do
    let front ← expandFields run w
    return front ++ (← expandAll words)

/-- The one text that a word stands for. -/
def expandText (w : Word) : ShellM String := do
  let pieces ← expandParts run (tildeWord (← getSession) w)
  return textOf (← getSession).joint pieces

/-- The text of a word that is assigned. -/
def expandValue (w : Word) : ShellM String := do
  let pieces ← expandParts run (tildeValue (← getSession) w)
  return textOf (← getSession).joint pieces

/-- The pattern that a word stands for. -/
def expandPattern (w : Word) : ShellM Pattern := do
  let pieces ← expandParts run (tildeWord (← getSession) w)
  return patternOfPieces (← getSession).joint pieces

end Words

end UnityBuild.Shell
