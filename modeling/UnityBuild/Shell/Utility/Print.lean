import UnityBuild.Shell.Condition
import UnityBuild.Shell.Format
import UnityBuild.Shell.Utility.Basic

/-!
# Utilities that print and decide

These utilities print a text, the arguments or the working directory, or decide a condition.
-/

namespace UnityBuild.Shell.Utility

/-! ### Texts -/

/-- Tells the working directory. -/
def pwd : Utility := fun _ arguments => do
  let words := [("logical", 'L'), ("physical", 'P')]
  let (_, _) ← readArguments "pwd" 1 "LP" words arguments
  write ((← get).files.workingDirectory.path.octets ++ "\n")
  return 0

/-- Writes the arguments on a line; escapes are replaced only when that is asked for. -/
def echo : Utility := fun _ arguments => do
  let flags := arguments.takeWhile fun argument =>
    1 < argument.length && argument.startsWith "-" &&
      (argument.toList.drop 1).all fun c => c == 'n' || c == 'e' || c == 'E'
  let words := arguments.drop flags.length
  let letters := flags.flatMap String.toList
  let escaped := letters.reverse.find? (fun c => c == 'e' || c == 'E') == some 'e'
  let text := String.intercalate " " words
  let text := if escaped then (unescape text).1 else text
  write (if letters.contains 'n' then text else text ++ "\n")
  return 0

/-- Writes the arguments in a format. -/
def printfUtility : Utility := fun _ arguments => do
  match arguments with
  | [] => giveUpWithHelp "printf" "missing operand" 1
  | format :: arguments =>
    let (problem, printing) := printf format arguments
    write printing.output
    printing.complaints.forM (grumble "printf")
    match problem with
    | some problem => giveUp "printf" problem 1
    | none => return statusOf printing.complaints.isEmpty

/-! ### Conditions -/

/-- Decides a condition. -/
def test : Utility := fun _ words => do
  match Condition.decide (← get).files words with
  | .ok result => return statusOf result
  | .error problem => giveUp "test" problem 2

/-- Decides a condition in brackets. -/
def bracket : Utility := fun start words =>
  if words.getLast? = some "]" then test start words.dropLast else giveUp "[" "missing ']'" 2

end UnityBuild.Shell.Utility
