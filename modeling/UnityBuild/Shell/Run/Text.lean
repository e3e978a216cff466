import UnityBuild.Shell.Process
import UnityBuild.Shell.Parser
import UnityBuild.Shell.Redirect

/-!
# Running texts

A text is read line by line, and what was read is run before the next line is looked at. How
commands are run is a parameter of this module.
-/

namespace UnityBuild.Shell

/-- How commands inside of commands are run; the flag tells whether their status is tested. -/
abbrev Runner := Bool → Command → ShellM Nat

section Running

variable (run : Runner)

/-- Runs the lines of a text one after the other; `rounds` bounds how many there are. -/
def runInput (tested verbose : Bool) (size : Nat) : Nat → Input → Nat → ShellM Nat
  | 0, _, status => return status
  | rounds + 1, input, status => do
    let s ← getSession
    let longest := 100 * s.aliases.foldl (fun size entry => size + entry.2.length) 0
    let input := { input with hereTexts := s.hereTexts, aliases := s.aliases }
    match parseNext (size + longest) input with
    | .error problem =>
      changeSession fun s => { s with line := problem.line }
      fail problem.text
    | .ok .done => return status
    | .ok (.command body rest) =>
      changeSession fun s => { s with hereTexts := rest.hereTexts, readLine := rest.line }
      if verbose && s.has 'v' then
        let _ ← say 2 (String.ofList (input.rest.take (input.rest.length - rest.rest.length)))
      match body with
      | .nothing => runInput tested verbose size rounds rest status
      | body => runInput tested verbose size rounds rest (← run tested body)

/-- Runs a text. -/
def runText (tested : Bool) (text : String) : ShellM Nat :=
  let chars := text.toList
  runInput run tested false chars.length (chars.length + 2) { rest := chars, line := 1 } 0

/-- Runs a script. -/
def runScript (text : String) : ShellM Nat :=
  let chars := text.toList.filter (· != '\x00')
  runInput run false true chars.length (chars.length + 2) { rest := chars, line := 1 } 0

/-- Runs what was asked for when signals arrived. The status stays as it was. -/
def runTraps : ShellM Unit := do
  let s ← getSession
  if s.arrived.isEmpty then return ()
  changeSession fun s => { s with arrived := [] }
  (s.arrived.eraseDups.mergeSort (· ≤ ·)).forM fun signal => do
    let s ← getSession
    match s.traps.lookup signal with
    | none => return ()
    | some text =>
      changeSession fun s => { s with savedStatus := some (s.savedStatus.getD s.status) }
      let _ ← runText run false text
      changeSession fun now => { now with status := s.status, savedStatus := s.savedStatus }

/-- Runs an action as a shell that is a process of its own. -/
def inSubshell (action : ShellM Nat) : ShellM ProcessEnd :=
  inChild (asShell (runText run false) action)

/-- A text without the line ends at its end, and without zeros. -/
def trimOutput (content : ByteArray) : String :=
  let chars := (Text.ofBytes content).toList.filter (· != '\x00')
  String.ofList (chars.reverse.dropWhile (· == '\n')).reverse

/-- What a command writes, once nobody else can write to the same place, which `await` waits
for. -/
def writtenBy (await : Nat → ShellM Unit) (body : Command) : ShellM String := do
  match body with
  | .nothing => return ""
  | body =>
    let number ← openNew { channel := .memory .empty }
    let result ← inSubshell run do
      connect 1 number
      run false body
    await number
    let written := (← get).remembered number
    modify fun s => { s with opened := s.opened.setIfInBounds number { channel := .nowhere } }
    let status ← result.tell
    changeSession fun s => { s with substitutionStatus := status }
    return trimOutput written

end Running

end UnityBuild.Shell
