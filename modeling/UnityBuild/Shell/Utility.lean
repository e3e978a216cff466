import UnityBuild.Shell.Utility.Columns
import UnityBuild.Shell.Utility.Count
import UnityBuild.Shell.Utility.Edit
import UnityBuild.Shell.Utility.Lines
import UnityBuild.Shell.Utility.Listing
import UnityBuild.Shell.Utility.Print
import UnityBuild.Shell.Utility.Search
import UnityBuild.Shell.Utility.Sort
import UnityBuild.Shell.Utility.Start
import UnityBuild.Shell.Utility.Translate

/-!
# Utilities

The programs that scripts can start besides the shell, by their names.
-/

namespace UnityBuild.Shell.Utility

/-- All utilities with their names. -/
def all : List (String × Utility) :=
  [("[", bracket), ("basename", basename), ("cat", cat), ("chmod", chmod), ("cp", cp), ("cut", cut),
    ("dirname", dirname), ("echo", echo), ("env", env), ("false", fun _ _ => return 1),
    ("grep", grep), ("head", head), ("ln", ln), ("ls", ls), ("mkdir", mkdir), ("mv", mv),
    ("printenv", printenv), ("printf", printfUtility), ("pwd", pwd), ("rm", rm), ("rmdir", rmdir),
    ("sed", sed), ("sleep", sleep), ("sort", sort), ("tail", tail), ("tee", tee), ("test", test),
    ("touch", touch), ("tr", tr), ("true", fun _ _ => return 0), ("uniq", uniq), ("wc", wc)]

/-- The names of all utilities. -/
def names : List String :=
  all.map (·.1)

/-- The utility of a name. -/
def find? (name : String) : Option Utility :=
  all.lookup name

/-- How a utility complains that what it wrote was lost, and with which status it ends. -/
def lossText (name : String) (error : SystemError) : String × Nat :=
  let plain := "write error: " ++ error.text
  match name, error with
  | "sort", .noSpace => ("fflush failed: 'standard output': " ++ error.text, 2)
  | "sort", _ => ("fflush failed: 'standard output': " ++ error.text, 2)
  | "sed", .noSpace => ("couldn't flush stdout: " ++ error.text, 4)
  | "sed", _ => ("couldn't close stdout: " ++ error.text, 4)
  | "wc", .noSpace => ("write error", 1)
  | "ls", _ => (plain, 2)
  | "grep", _ => (plain, 2)
  | "printenv", _ => (plain, 2)
  | "env", _ => (plain, 125)
  | _, _ => (plain, 1)

/-- Ends a utility: what it wrote must not have been lost. -/
def closeOutput (name : String) (status : Nat) : ShellM Nat := do
  match (← getSession).lost with
  | none => return status
  | some error =>
    let (text, status) := lossText name error
    grumble name text
    if name = "sort" then
      grumble name (if error = .noSpace then "write error" else "write error: " ++ error.text)
    return status

end UnityBuild.Shell.Utility
