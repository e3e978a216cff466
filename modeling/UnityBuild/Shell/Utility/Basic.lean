import UnityBuild.Shell.Builtin.Arguments
import UnityBuild.Shell.Open
import UnityBuild.Shell.Rights

/-!
# What utilities share

A utility reads files or its input, writes to its output, and complains under its own name. Its
options can stand anywhere among its arguments.
-/

namespace UnityBuild.Shell

/-- How a program is started by its name, and how it ended if it was. -/
abbrev Starter := List String → ShellM (Except SystemError ProcessEnd)

/-- A program that a script can start, given how it starts other programs. -/
abbrev Utility := (start : Starter) → List String → ShellM Nat

namespace Utility

/-- Remembers that what was written to the output was lost, and why. -/
def loseOutput : ShellM Unit := do
  let error : SystemError := match ← fileOf? 1 with
    | some (_, file) => if file.writable then .noSpace else .badDescriptor
    | none => .badDescriptor
  changeSession fun s => { s with lost := s.lost.or (some error) }

/-- Writes to the output. -/
def write (text : String) : ShellM Unit := do
  if !text.isEmpty && !(← say 1 text) then loseOutput

/-- The name that a utility was called by. -/
def calledAs (name : String) : ShellM String := do
  let program := (← getSession).program
  return if program.isEmpty then name else program

/-- Complains under the name of a utility. -/
def grumble (name text : String) : ShellM Unit := do
  let _ ← say 2 ((← calledAs name) ++ ": " ++ text ++ "\n")

/-- Tells where help on a utility can be found. -/
def pointToHelp (name : String) : ShellM Unit := do
  let _ ← say 2 ("Try '" ++ (← calledAs name) ++ " --help' for more information.\n")

/-- Complains and ends the utility. -/
def giveUp {α : Type} (name text : String) (status : Nat) : ShellM α := do
  grumble name text
  throw (.exited status)

/-- Complains and tells where help can be found. -/
def giveUpWithHelp {α : Type} (name text : String) (status : Nat) : ShellM α := do
  grumble name text
  pointToHelp name
  throw (.exited status)

/-- Complains that an operand is missing; `what` tells where. -/
def missOperand {α : Type} (name what : String) : ShellM α :=
  giveUpWithHelp name ("missing operand" ++ what) 1

/-- How utilities complain about options. -/
def optionComplaint : OptionProblem → String
  | .unknown letter => "invalid option -- '" ++ String.ofList [letter] ++ "'"
  | .noValue letter => "option requires an argument -- '" ++ String.ofList [letter] ++ "'"
  | .unknownWord word => "unrecognized option '--" ++ word ++ "'"
  | .noWordValue word => "option '--" ++ word ++ "' requires an argument"
  | .unwantedValue word => "option '--" ++ word ++ "' doesn't allow an argument"
  | .ambiguous word possible =>
    "option '--" ++ word ++ "' is ambiguous; possibilities:" ++
      String.join (possible.map fun name => " '--" ++ name ++ "'")

/-- The long option that a word names: one of that name, or the only one that starts with it. -/
def findWord (words : List (String × Char)) (name : String) :
    Except OptionProblem (String × Char) :=
  match words.find? fun word => word.1 == name with
  | some word => .ok word
  | none =>
    let possible := words.filter fun word => word.1.startsWith name
    match possible with
    | [] => .error (.unknownWord name)
    | first :: _ =>
      if possible.all fun word => word.2 == first.2 then .ok first
      else .error (.ambiguous name (possible.map (·.1)))

/-- Reads options among the other arguments, or only before them when they are `leading`; `words`
are long options with the letters that they stand for, and `rounds` bounds how many arguments there
are. -/
def readAmong (known : List Char) (words : List (String × Char)) (leading : Bool) :
    Nat → List String → Except OptionProblem OptionList
  | 0, arguments => .ok ([], arguments)
  | rounds + 1, arguments => do
    match arguments with
    | [] => return ([], [])
    | "--" :: others => return ([], others)
    | first :: others =>
      match first.toList with
      | '-' :: '-' :: text =>
        let (name, value) := Text.cutAt '=' text
        let (word, letter) ← match findWord words (String.ofList name) with
          | .error (.unknownWord _) => throw (.unknownWord (String.ofList text))
          | found => found
        let optional := mayTakeValue known letter
        let (value, others) ← match takesValue known letter || optional, value, others with
          | true, some value, others => pure (String.ofList value, others)
          | true, none, [] => if optional then pure ("", []) else throw (.noWordValue word)
          | true, none, value :: others =>
            pure (if optional then ("", value :: others) else (value, others))
          | false, some _, _ => throw (.unwantedValue word)
          | false, none, others => pure ("", others)
        let (options, others) ← readAmong known words leading rounds others
        return ((letter, value) :: options, others)
      | '-' :: letter :: letters =>
        let (options, others) ← readLetters known (letter :: letters) others
        let (more, others) ← readAmong known words leading rounds others
        return (options ++ more, others)
      | _ =>
        if leading then return ([], arguments)
        let (options, others) ← readAmong known words leading rounds others
        return (options, first :: others)

/-- Complains about wrong options and ends the utility. -/
def refuseOptions {α : Type} (name : String) (status : Nat) (problem : OptionProblem) :
    ShellM α :=
  giveUpWithHelp name (optionComplaint problem) status

/-- Reads the options of a utility; a wrong one ends it with a status. -/
def readArguments (name : String) (status : Nat) (known : String) (words : List (String × Char))
    (arguments : List String) : ShellM OptionList := do
  match readAmong known.toList words false (arguments.length + 1) arguments with
  | .ok options => return options
  | .error problem => refuseOptions name status problem

/-- Reads the options of a utility that have to stand before all other arguments. -/
def readLeading (name : String) (status : Nat) (known : String) (words : List (String × Char))
    (arguments : List String) : ShellM OptionList := do
  match readAmong known.toList words true (arguments.length + 1) arguments with
  | .ok options => return options
  | .error problem => refuseOptions name status problem

/-- Whether an option was given. -/
def given (options : List (Char × String)) (letter : Char) : Bool :=
  options.any (·.1 == letter)

/-- The value of an option; the last one counts. -/
def valueOf? (options : List (Char × String)) (letter : Char) : Option String :=
  (options.filter (·.1 == letter)).getLast?.map (·.2)

/-- A number at the right end of a column. -/
def padLeft (width : Nat) (text : String) : String :=
  String.ofList (List.replicate (width - text.length) ' ') ++ text

/-- Characters that need no quotes in a name. -/
def isHarmless (c : Char) : Bool :=
  c.isAlphanum || "_./%+,@-]\x7b\x7d#~".toList.contains c

/-- Characters that are shown as they are between quotes. -/
def isVisible (c : Char) : Bool :=
  ' ' ≤ c && c ≤ '~'

/-- The escape of a character that cannot be shown. -/
def escapeText (c : Char) : String :=
  match c with
  | '\n' => "\\n"
  | '\t' => "\\t"
  | '\r' => "\\r"
  | c =>
    let digit (n : Nat) : Char := Nat.digitChar (n % 8)
    String.ofList ['\\', digit (c.toNat / 64), digit (c.toNat / 8), digit c.toNat]

/-- The inside of quotes around characters; those that cannot be shown stand in quotes of their
own. -/
def quotedInside : Bool → List Char → String
  | _, [] => ""
  | escaping, c :: s =>
    if isVisible c then
      (if escaping then "''" else "") ++ (if c = '\'' then "'\\''" else String.ofList [c]) ++
        quotedInside false s
    else (if escaping then "" else "'$'") ++ escapeText c ++ quotedInside true s

/-- A name in quotes. -/
def quotedName (name : String) : String :=
  if name.toList.contains '\'' && name.toList.all fun c => c != '"' && isVisible c then
    "\"" ++ name ++ "\""
  else "'" ++ quotedInside false name.toList ++ "'"

/-- A name in a complaint, in quotes if it needs them. -/
def shownName (name : String) : String :=
  let first := name.toList.head?
  if !name.isEmpty && name.toList.all isHarmless && first != some '#' && first != some '~' then name
  else quotedName name

/-- Complains about an operand too many. -/
def refuseOperand {α : Type} (name operand : String) : ShellM α :=
  giveUpWithHelp name ("extra operand " ++ quotedName operand) 1

/-- The size of an operand that is the file that the output goes to. -/
def outputSize? (path : String) : ShellM (Option Nat) := do
  let files := (← get).files
  let target : Option Channel := (← fileOf? 1).map fun entry => entry.2.channel
  match files.locate ⟨path⟩, target with
  | .ok place, some (.file other) =>
    match files.get? place with
    | some (.file content _) =>
      return if place == other && path != "-" then some content.size else none
    | _ => return none
  | _, _ => return none

/-- The content of an operand; a hyphen stands for the input. -/
def readOperand (path : String) : ShellM (Except SystemError String) := do
  return (← if path = "-" then readDescriptor 0 else readPath path).map Text.ofBytes

/-- Does something with the content of every operand; without operands the input is taken. The
status tells whether all could be read. -/
def forOperands (name : String) (paths : List String) (use : String → String → ShellM Unit) :
    ShellM Nat :=
  (if paths.isEmpty then ["-"] else paths).foldlM (fun status path => do
    match ← readOperand path with
    | .ok content =>
      use path content
      return status
    | .error error =>
      grumble name (shownName path ++ ": " ++ error.text)
      return 1) 0

/-- Cuts a text into lines, each with its end if it has one. -/
def linesWithEnds (text : String) : List String :=
  let pieces := (Text.splitAt (· == '\n') text.toList).map String.ofList
  pieces.dropLast.map (· ++ "\n") ++ (pieces.getLast?.toList.filter (!·.isEmpty))

/-- Cuts a text into lines without their ends. -/
def linesOf (text : String) : List String :=
  let pieces := (Text.splitAt (· == '\n') text.toList).map String.ofList
  pieces.dropLast ++ pieces.getLast?.toList.filter (!·.isEmpty)

end Utility

end UnityBuild.Shell
