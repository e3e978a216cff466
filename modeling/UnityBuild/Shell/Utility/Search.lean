import UnityBuild.Shell.Regex.Read
import UnityBuild.Shell.Utility.Basic

/-!
# Finding lines

`grep` writes the lines of its files in which one of its patterns is found, or the parts that were
found, or how many lines there are.
-/

namespace UnityBuild.Shell.Utility

/-- What is asked of `grep`. -/
structure GrepRules where
  patterns : List Regex
  options : List (Char × String)
  titled : Bool

/-- A pattern for a text that stands for itself. -/
def literalRegex (form : Regex.Form) (text : List Char) : Regex :=
  text.foldr (fun c regex => .sequence (Regex.literal form c) regex) .nothing

/-- Reads the lines of patterns. -/
def readPatterns (options : List (Char × String)) (text : String) : ShellM (List Regex) := do
  let form : Regex.Form :=
    { extended := given options 'E'
      ignoreCase := given options 'i'
      lenient := true }
  (Text.splitAt (· == '\n') text.toList).mapM fun line => do
    if given options 'F' then return literalRegex form line
    match Regex.read form line with
    | .error problem => giveUp "grep" problem 2
    | .ok reading =>
      reading.remarks.forM fun remark => grumble "grep" ("warning: " ++ remark)
      return reading.regex

/-- Which ends of patterns are wanted: those at word edges or at the ends of the line. -/
def GrepRules.wanted (rules : GrepRules) (start stop : Regex.Place) : Bool :=
  if given rules.options 'x' then start.index == 0 && stop.rest.isEmpty
  else if given rules.options 'w' then
    !start.before.any Regex.isWordChar && !stop.rest.head?.any Regex.isWordChar
  else true

/-- Finds a pattern at a place of a line or behind it. -/
def GrepRules.find? (rules : GrepRules) (place : Regex.Place) : Option Regex.Match :=
  Regex.findAny? rules.patterns rules.wanted place

/-- Whether a line is selected. -/
def GrepRules.selects (rules : GrepRules) (line : String) : Bool :=
  (rules.find? (Regex.startOf line.toList)).isSome != given rules.options 'v'

/-- All parts of a line in which a pattern is found; `rounds` bounds how many there are. -/
def GrepRules.foundParts (rules : GrepRules) : Nat → Regex.Place → List String
  | 0, _ => []
  | rounds + 1, place =>
    match rules.find? place with
    | none => []
    | some found =>
      if found.text.isEmpty then
        if found.stop.rest.isEmpty then [] else rules.foundParts rounds (found.stop.advance 1)
      else String.ofList found.text :: rules.foundParts rounds found.stop

/-- What is written about a selected line: the line or its parts, each behind the name of the file
and the number of the line. -/
def GrepRules.shown (rules : GrepRules) (name : String) (number : Nat) (line : String) : String :=
  let front := (if rules.titled then name ++ ":" else "") ++
    if given rules.options 'n' then toString number ++ ":" else ""
  let parts :=
    if !given rules.options 'o' then [line]
    else if given rules.options 'v' then []
    else rules.foundParts (line.length + 1) (Regex.startOf line.toList)
  String.join (parts.map fun part => front ++ part ++ "\n")

/-- What is written about a file, a complaint, and how many lines were selected. -/
def GrepRules.report (rules : GrepRules) (path content : String) :
    String × Option String × Nat :=
  let name := if path = "-" then "(standard input)" else path
  let selected := (linesOf content).zipIdx.filter fun (line, _) => rules.selects line
  let count := selected.length
  let found := 0 < count
  if given rules.options 'q' then ("", none, count)
  else if given rules.options 'l' then (if found then name ++ "\n" else "", none, count)
  else if given rules.options 'L' then (if found then "" else name ++ "\n", none, count)
  else if given rules.options 'c' then
    ((if rules.titled then name ++ ":" else "") ++ toString count ++ "\n", none, count)
  else if content.toList.contains '\x00' then
    ("", if found then some (name ++ ": binary file matches") else none, count)
  else
    (String.join (selected.map fun (line, i) => rules.shown name (i + 1) line), none, count)

/-- The long options of `grep`. -/
def grepWords : List (String × Char) :=
  [("count", 'c'), ("invert-match", 'v'), ("ignore-case", 'i'), ("line-number", 'n'),
    ("quiet", 'q'), ("silent", 'q'), ("files-with-matches", 'l'), ("files-without-match", 'L'),
    ("extended-regexp", 'E'), ("fixed-strings", 'F'), ("basic-regexp", 'G'),
    ("only-matching", 'o'), ("word-regexp", 'w'), ("line-regexp", 'x'), ("no-messages", 's'),
    ("regexp", 'e'), ("no-filename", 'h'), ("with-filename", 'H')]

/-- How `grep` shows that it was called in a wrong way. -/
def grepUsage {α : Type} : ShellM α := do
  let _ ← Shell.say 2 ("Usage: grep [OPTION]... PATTERNS [FILE]...\n" ++
    "Try 'grep --help' for more information.\n")
  throw (.exited 2)

/-- The texts of patterns and the other operands. -/
def patternTexts (options : List (Char × String)) (operands : List String) :
    ShellM (List String × List String) :=
  let written := (options.filter (·.1 == 'e')).map (·.2)
  match written, operands with
  | [], [] => grepUsage
  | [], text :: paths => return ([text], paths)
  | texts, paths => return (texts, paths)

/-- Searches in one operand. The state tells whether lines were selected, and whether anything could
not be read. -/
def grepOperand (rules : GrepRules) (seen : Bool × Bool) (path : String) : ShellM (Bool × Bool) := do
  let (found, failed) := seen
  let options := rules.options
  let asked := given options 'q' || given options 'l' || given options 'L'
  if found && given options 'q' then return seen
  if !asked && (← outputSize? path).isSome then
    grumble "grep" (path ++ ": input file is also the output")
    return (found, true)
  match ← readOperand path with
  | .ok content =>
    let (text, complaint, count) := rules.report path content
    write text
    complaint.forM (grumble "grep")
    return (found || 0 < count, failed)
  | .error error =>
    if !given options 's' then grumble "grep" (path ++ ": " ++ error.text)
    return (found, true)

/-- Writes the lines in which patterns are found. -/
def grep : Utility := fun _ arguments => do
  let (options, operands) ←
    match readAmong "cviqnlLEFGowxse:hH".toList grepWords false (arguments.length + 1) arguments with
    | .ok options => pure options
    | .error problem =>
      grumble "grep" (optionComplaint problem)
      grepUsage
  if 1 < ['E', 'F', 'G'].countP (given options ·) then
    giveUp "grep" "conflicting matchers specified" 2
  let (texts, paths) ← patternTexts options operands
  let patterns ← texts.mapM (readPatterns options)
  let paths := if paths.isEmpty then ["-"] else paths
  let titled := (1 < paths.length || given options 'H') && !given options 'h'
  let (found, failed) ←
    paths.foldlM (grepOperand ⟨patterns.flatten, options, titled⟩) (false, false)
  return if failed && !(found && given options 'q') then 2 else statusOf found

end UnityBuild.Shell.Utility
