import UnityBuild.Naming
import UnityBuild.Text.Blank
import UnityBuild.Text.Reader

/-!
# Messages about clashing names

The compiler reports a clash as a redefinition or redeclaration of a quoted name, which may be
called a typedef or an enumerator in front of the quotes, or a struct, union or enum inside them.
Only the start of the message counts; what follows the closing quote is free.

Main definition: `collisionIdentifier?`.
-/

namespace UnityBuild.Diagnostic

open Text (afterAny?)

/-- The quotes that compilers put around names. -/
def quoteChars : List Char :=
  ['\'', '‘', '’', '"', '\x60']

/-- Whether a character opens or closes a quoted name. -/
def isQuote (c : Char) : Bool :=
  quoteChars.contains c

/-- The words for a clash, with the blanks around `of`. -/
def clashWords : List String := ["redefinition of ", "redeclaration of "]

/-- The words that may stand in front of the quotes. -/
def outerWords : List String := ["typedef ", "enumerator "]

/-- The words that may stand inside the quotes. -/
def tagWords : List String := ["struct", "union", "enum"]

/-- What follows a tag word and the blanks behind it. -/
def afterTag? (s : List Char) : Option (List Char) :=
  match afterAny? tagWords s with
  | some (c :: rest) => if Text.isBlank c then some (Text.trimStart rest) else none
  | _ => none

/-- The identifier in front of a closing quote. -/
def quotedIdentifier? (s : List Char) : Option (List Char) :=
  let name := s.takeWhile Naming.isIdentifierRest
  match s.dropWhile Naming.isIdentifierRest with
  | c :: _ => if Naming.isIdentifierChars name && isQuote c then some name else none
  | [] => none

/-- The identifier behind an opening quote, with or without a tag word in front of it. -/
def nameInQuotes? : List Char → Option (List Char)
  | c :: s => if isQuote c then quotedIdentifier? ((afterTag? s).getD s) else none
  | [] => none

/-- The identifier that a message reports as clashing. -/
def collisionIdentifier? (message : String) : Option String := do
  let s ← afterAny? clashWords (Text.trim message.toList)
  let name ← nameInQuotes? ((afterAny? outerWords s).getD s)
  return String.ofList name

end UnityBuild.Diagnostic
