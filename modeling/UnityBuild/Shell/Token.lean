import UnityBuild.Shell.Script

/-!
# Tokens of shell scripts

A script is read token by token. What a word means depends on where it stands, so words become
keywords only when the parser asks for them.
-/

namespace UnityBuild.Shell

/-- What stands between a descriptor and the word of a redirection. -/
inductive RedirectOperator where
  | openFile (mode : OpenMode)
  | duplicate
  | hereText (stripTabs : Bool)
deriving DecidableEq, Repr

/-- A token. -/
inductive Token where
  | endOfFile
  | newline
  | semicolon
  | ampersand
  | andIf
  | orIf
  | bar
  | openParen
  | closeParen
  | endCase
  | redirect (descriptor : Nat) (operator : RedirectOperator)
  | word (w : Word)
  | keyword (text : String)

/-- The words that have a meaning of their own where a command can start. -/
def keywords : List String :=
  ["!", "case", "do", "done", "elif", "else", "esac", "fi", "for", "if", "in", "then", "until",
    "while", "\x7b", "\x7d"]

namespace Token

/-- The name of a token in a complaint. -/
def name : Token → String
  | endOfFile => "end of file"
  | newline => "newline"
  | semicolon => "\";\""
  | ampersand => "\"&\""
  | andIf => "\"&&\""
  | orIf => "\"||\""
  | bar => "\"|\""
  | openParen => "\"(\""
  | closeParen => "\")\""
  | endCase => "\";;\""
  | redirect _ _ => "redirection"
  | word _ => "word"
  | keyword text => "\"" ++ text ++ "\""

/-- The keywords that end a list of commands. -/
def closingKeywords : List String :=
  ["do", "done", "elif", "else", "esac", "fi", "then", "\x7d"]

/-- Whether a list of commands ends in front of a token. -/
def closesList : Token → Bool
  | endOfFile => true
  | closeParen => true
  | endCase => true
  | keyword text => closingKeywords.contains text
  | _ => false

/-- Whether a token is a certain keyword. -/
def isKeyword (text : String) : Token → Bool
  | keyword other => other == text
  | _ => false

/-- A word as the keyword that it spells, if it does. -/
def toKeyword (t : Token) : Token :=
  match t with
  | word w =>
    match w.bare? with
    | some text => if keywords.contains text then keyword text else t
    | none => t
  | _ => t

end Token

/-- A text in the script that was asked for and whose body was not read yet. -/
structure PendingText where
  number : Nat
  delimiter : List Char
  literal : Bool
  stripTabs : Bool

/-- What the parser knows: the rest of the script and the line it is at, the last token, whether
it is to be read again, the texts that were asked for and read, and the words that stand for other
text, with those that are being read and the length of what is behind them. -/
structure Input where
  rest : List Char
  line : Nat
  token : Token := .endOfFile
  again : Bool := false
  pending : List PendingText := []
  hereTexts : HereTexts := #[]
  aliases : List (String × String) := []
  active : List (String × Nat) := []

/-- A script that cannot be read, and the line at which this was found. -/
structure ScriptError where
  line : Nat
  text : String
deriving DecidableEq, Repr

/-- Reads a part of a script. -/
abbrev ParserM := StateT Input (Except ScriptError)

/-- Gives up at the current line. -/
def refuse {α : Type} (text : String) : ParserM α := do
  throw ⟨(← get).line, "Syntax error: " ++ text⟩

/-- Which list of commands is read: a line of the script, commands inside of a compound command,
commands of which there may be none, or such commands with the parenthesis that closes them. -/
inductive ListKind where
  | line
  | block
  | optional
  | enclosed
deriving DecidableEq, Repr

/-- How lists of commands are read inside of words and commands. -/
abbrev ListReader := ListKind → ParserM Command

end UnityBuild.Shell
