/-!
# Shell scripts

A script is a tree of commands. Commands are made of words, and a word is a list of parts: text,
parameters, the output of commands, and the values of arithmetic. A word can hold commands, so the
types are defined together.

The body of a text in the script stands behind the line that asks for it. Redirections name it by
its number; `HereTexts` holds the bodies.
-/

namespace UnityBuild.Shell

/-- What is made of the value of a parameter. Where `orNull` is a field, a value without characters
counts as unset when it holds. -/
inductive Modifier where
  | value
  | length
  | orElse (orNull : Bool)
  | andThen (orNull : Bool)
  | orFail (orNull : Bool)
  | orAssign (orNull : Bool)
  | dropFront (longest : Bool)
  | dropBack (longest : Bool)
  | unknown
deriving DecidableEq, Repr

/-- How a file is opened. -/
inductive OpenMode where
  | read
  | readWrite
  | write
  | overwrite
  | append
deriving DecidableEq, Repr

mutual

/-- A part of a word. A quoted part is never split, and its characters stand for themselves. -/
inductive Part where
  | text (chars : String) (quoted : Bool)
  | parameter (name : String) (modifier : Modifier) (word : List Part) (quoted : Bool)
  | command (body : Command) (quoted : Bool)
  | arithmetic (expression : List Part) (quoted : Bool)

/-- What is done to a descriptor before a command runs. -/
inductive Redirection where
  | openFile (descriptor : Nat) (mode : OpenMode) (target : List Part)
  | duplicate (descriptor : Nat) (target : List Part)
  | hereText (descriptor : Nat) (number : Nat)

/-- A command. Lines are remembered for complaints. -/
inductive Command where
  | nothing
  | simple (line : Nat) (assignments words : List (List Part)) (redirections : List Redirection)
  | sequence (commands : List Command)
  | both (first second : Command)
  | either (first second : Command)
  | negated (body : Command)
  | pipeline (commands : List Command)
  | background (line : Nat) (body : Command)
  | subshell (line : Nat) (body : Command) (redirections : List Redirection)
  | redirected (line : Nat) (body : Command) (redirections : List Redirection)
  | branch (condition thenPart : Command) (elsePart : Option Command)
  | loop (whileTrue : Bool) (condition body : Command)
  | forEach (line : Nat) (name : String) (words : List (List Part)) (body : Command)
  | choice (line : Nat) (subject : List Part) (cases : Cases)
  | define (name : String) (body : Command)

/-- The cases of a choice, each with its patterns. -/
inductive Cases where
  | none
  | case (patterns : List (List Part)) (body : Command) (others : Cases)

end

/-- A word before its parts are replaced. -/
abbrev Word := List Part

/-- The bodies of the texts in a script, by their numbers. -/
abbrev HereTexts := Array Word

/-- Characters that can start a name. -/
def startsName (c : Char) : Bool :=
  c.isAlpha || c == '_'

/-- Characters of a name. -/
def isNameChar (c : Char) : Bool :=
  c.isAlphanum || c == '_'

/-- Whether a text is a name. -/
def isName (s : String) : Bool :=
  match s.toList with
  | [] => false
  | c :: rest => startsName c && rest.all isNameChar

/-- The plain text of a word without quotes, parameters and the like. -/
def Word.bare? (w : Word) : Option String :=
  match w with
  | [.text chars false] => some chars
  | _ => none

/-- The name and the value of a word that sets a variable. -/
def Word.assignment? (w : Word) : Option (String × Word) :=
  match w with
  | .text chars false :: parts =>
    let name := chars.toList.takeWhile isNameChar
    match name, chars.toList.drop name.length with
    | first :: _, '=' :: value =>
      if startsName first then
        let parts := if value.isEmpty then parts else .text (String.ofList value) false :: parts
        some (String.ofList name, parts)
      else none
    | _, _ => none
  | _ => none

end UnityBuild.Shell
