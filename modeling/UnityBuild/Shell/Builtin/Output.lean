import UnityBuild.Shell.Builtin.Arguments
import UnityBuild.Shell.Condition
import UnityBuild.Shell.Format

/-!
# Built-in commands that write and decide

`echo` and `printf` write their arguments, `test` decides a condition.
-/

namespace UnityBuild.Shell

/-- Writes the arguments on a line. -/
def echoCommand (arguments : List String) : ShellM Nat :=
  output (echoText arguments)

/-- Writes the arguments in a format. Complaints come first. -/
def printfCommand (arguments : List String) : ShellM Nat := do
  match (← readOptions "" arguments).2 with
  | [] => fail "usage: printf format [arg ...]"
  | format :: arguments =>
    let (problem, printing) := printf format arguments
    printing.complaints.forM complain
    problem.forM complain
    let status ← output printing.output
    if problem.isSome then
      setStatus misuseStatus
      throw .failed
    return if printing.complaints.isEmpty then status else 1

/-- Decides a condition. -/
def testCommand (words : List String) : ShellM Nat := do
  match Condition.decide (← get).files words with
  | .ok result => return statusOf result
  | .error problem => fail problem

/-- Decides a condition in brackets. -/
def bracketCommand (words : List String) : ShellM Nat :=
  if words.getLast? = some "]" then testCommand words.dropLast else fail "missing ]"

end UnityBuild.Shell
