import UnityBuild.Shell.Number
import UnityBuild.Shell.State

/-!
# Arguments of built-in commands

The options of a built-in command are letters behind a hyphen; letters can stand together, and two
hyphens end the options. What a command writes goes to its output in one piece.
-/

namespace UnityBuild.Shell

/-- A list of options with their values, and the arguments behind them. -/
abbrev OptionList := List (Char × String) × List String

/-- Why options were not understood. -/
inductive OptionProblem where
  | unknown (letter : Char)
  | noValue (letter : Char)
  | unknownWord (word : String)
  | noWordValue (word : String)
  | unwantedValue (word : String)
  | ambiguous (word : String) (possible : List String)
deriving DecidableEq, Repr

/-- Whether an option takes a value: a colon stands behind it among the known ones. -/
def takesValue (known : List Char) (letter : Char) : Bool :=
  match known with
  | c :: ':' :: rest => c == letter || takesValue rest letter
  | _ :: rest => takesValue rest letter
  | [] => false

/-- Whether an option may take a value, which then stands right behind it: two colons stand behind
it among the known ones. -/
def mayTakeValue (known : List Char) (letter : Char) : Bool :=
  match known with
  | c :: ':' :: ':' :: rest => c == letter || mayTakeValue rest letter
  | _ :: rest => mayTakeValue rest letter
  | [] => false

/-- Reads the letters of one argument; `arguments` are those behind it. -/
def readLetters (known : List Char) :
    List Char → List String → Except OptionProblem OptionList
  | [], arguments => .ok ([], arguments)
  | letter :: letters, arguments => do
    if letter == ':' || !known.contains letter then throw (.unknown letter)
    if mayTakeValue known letter then return ([(letter, String.ofList letters)], arguments)
    if takesValue known letter then
      if !letters.isEmpty then return ([(letter, String.ofList letters)], arguments)
      match arguments with
      | value :: arguments => return ([(letter, value)], arguments)
      | [] => throw (.noValue letter)
    else
      let (options, arguments) ← readLetters known letters arguments
      return ((letter, "") :: options, arguments)

/-- Reads options; `rounds` bounds how many arguments hold them. -/
def readOptionsWithin (known : List Char) :
    Nat → List String → Except OptionProblem OptionList
  | 0, arguments => .ok ([], arguments)
  | rounds + 1, arguments => do
    match arguments with
    | [] => return ([], [])
    | first :: others =>
      if first = "--" then return ([], others)
      match first.toList with
      | '-' :: letter :: letters =>
        let (options, others) ← readLetters known (letter :: letters) others
        let (more, others) ← readOptionsWithin known rounds others
        return (options ++ more, others)
      | _ => return ([], arguments)

/-- How built-in commands complain about options. -/
def OptionProblem.text : OptionProblem → String
  | unknown letter => "Illegal option -" ++ String.ofList [letter]
  | noValue letter => "No arg for -" ++ String.ofList [letter] ++ " option"
  | unknownWord word => "Illegal option " ++ word
  | noWordValue word => "No arg for --" ++ word ++ " option"
  | unwantedValue word => "Illegal option --" ++ word
  | ambiguous word _ => "Illegal option --" ++ word

/-- Reads the options of a built-in command. -/
def readOptions (known : String) (arguments : List String) : ShellM OptionList :=
  match readOptionsWithin known.toList (arguments.length + 1) arguments with
  | .ok options => return options
  | .error problem => fail problem.text

/-- The count that an argument writes. -/
def readCount (text : String) : ShellM Nat :=
  match countOf? text with
  | some n => return n
  | none => fail ("Illegal number: " ++ text)

/-- Writes what a built-in command has to say. -/
def output (text : String) : ShellM Nat := do
  if text.isEmpty then return 0
  if ← say 1 text then return 0
  complain ((← getSession).command.getD "" ++ ": I/O error")
  return 1

/-- The status of a truth value. -/
def statusOf (b : Bool) : Nat :=
  if b then 0 else 1

/-- Characters in quotes, as they can be read again: runs of single quotes stand in double quotes
and all other characters in single ones. `rounds` bounds how many runs there are. -/
def quoteChars : Nat → List Char → List Char
  | 0, _ => []
  | rounds + 1, s =>
    let plain := s.takeWhile (· != '\'')
    let rest := s.drop plain.length
    let quotes := rest.takeWhile (· == '\'')
    let behind := rest.drop quotes.length
    '\'' :: plain ++ '\'' :: if quotes.isEmpty then [] else
      '"' :: quotes ++ '"' :: if behind.isEmpty then [] else quoteChars rounds behind

/-- A text in quotes, as it can be read again. -/
def quoteText (text : String) : String :=
  String.ofList (quoteChars (text.length + 1) text.toList)

end UnityBuild.Shell
