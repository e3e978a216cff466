import UnityBuild.Shell.Run.Simple

/-!
# Running shell commands

A command is run by recursion on its tree. The commands of a function and of texts that are read
while a script runs are no parts of that tree, so how commands inside of commands are run is a
parameter, and `evaluate` bounds how deep they can stand in each other.

A command can be tested: a status that tells of a failure is then looked at by the script itself,
and the option that ends a script at the first failure does not see it.

Main definition: `evaluate`.
-/

namespace UnityBuild.Shell

/-- How often a loop is run at most. -/
def maxRounds : Nat := 1000000000000

section Running

variable (run : Runner)

/-- Runs commands one after the other. -/
def runAll (tested : Bool) : List Command → Nat → ShellM Nat
  | [], status => return status
  | command :: commands, _ => do runAll tested commands (← run tested command)

/-- How a loop goes on. -/
inductive Round where
  | next (status : Nat)
  | last (status : Nat)

/-- Runs a round of a loop, and decides how the loop goes on. -/
def runRound (action : ShellM Nat) : ShellM Round :=
  ExceptT.mk do
    match ← action.run with
    | .ok status => return .ok (.next status)
    | .error (.leftLoop levels) =>
      return if levels ≤ 1 then .ok (.last 0) else .error (.leftLoop (levels - 1))
    | .error (.nextRound levels) =>
      return if levels ≤ 1 then .ok (.next 0) else .error (.nextRound (levels - 1))
    | .error stop => return .error stop

/-- Counts a loop while it runs. -/
def inLoop (action : ShellM Nat) : ShellM Nat := do
  let depth := (← getSession).loopDepth
  changeSession fun s => { s with loopDepth := depth + 1 }
  finallyChange action fun s => { s with session := { s.session with loopDepth := depth } }

/-- Runs a loop as long as its condition has the status that is asked for. -/
def runLoop (tested whileTrue : Bool) (condition body : Command) : Nat → Nat → ShellM Nat
  | 0, status => return status
  | rounds + 1, status => do
    match ← runRound (run true condition) with
    | .last _ => return status
    | .next decision =>
      if (decision = 0) != whileTrue then return status
      match ← runRound (run tested body) with
      | .last status => return status
      | .next status => runLoop tested whileTrue condition body rounds status

/-- Runs a loop once for every word. -/
def runForEach (tested : Bool) (name : String) (body : Command) : List String → Nat → ShellM Nat
  | [], status => return status
  | word :: words, _ => do
    setVariable name word
    match ← runRound (run tested body) with
    | .last status => return status
    | .next status => runForEach tested name body words status

/-- Whether one of several patterns fits a text. -/
def anyFits (text : List Char) : List Word → ShellM Bool
  | [] => return false
  | w :: words => do
    let pattern ← expandPattern (substitute run) w
    if pattern.fits text then return true else anyFits text words

/-- Runs the first case that fits. -/
def runCases (tested : Bool) (text : List Char) : Cases → ShellM Nat
  | .none => return 0
  | .case patterns body others => do
    if ← anyFits run text patterns then
      match body with
      | .nothing => return 0
      | body => run tested body
    else runCases tested text others

/-- Runs commands that hand their output on. The first reads from the open file `input`, if there
is one. -/
def runPipeline : Option Nat → List Command → Nat → ShellM Nat
  | _, [], status => return status
  | input, command :: commands, _ => do
    let next ← if commands.isEmpty then pure none
      else pure (some (← openNew { channel := .memory .empty, isPipe := true }))
    let result ← inSubshell run do
      match input with
      | some number => connect 0 number
      | none => pure ()
      match next with
      | some number => connect 1 number
      | none => pure ()
      run false command
    match next with
    | some number => awaitWriters run number
    | none => pure ()
    let status ← result.tell
    runPipeline next commands status

/-- Runs a command as a process of its own, with redirections. -/
def runSubshell (tested : Bool) (line : Nat) (body : Command) (redirections : List Redirection) :
    ShellM Nat := do
  changeSession fun s => { s with line := line }
  let connections ← expandRedirections (substitute run) redirections
  let result ← inSubshell run do
    connections.forM Connection.apply
    run tested body
  result.tell

/-- Runs a command, and tells whether a failure of it ends a script that is to end then. -/
def runCommand (tested : Bool) : Command → ShellM (Nat × Bool)
  | .nothing => return (0, false)
  | .simple line assignments words redirections => do
    return (← runSimple run tested line assignments words redirections, true)
  | .sequence commands => do return (← runAll run tested commands 0, false)
  | .both first second => do
    let status ← run true first
    if status = 0 then return (← run tested second, false) else return (status, false)
  | .either first second => do
    let status ← run true first
    if status = 0 then return (status, false) else return (← run tested second, false)
  | .negated body => do return (statusOf ((← run true body) != 0), false)
  | .pipeline commands => do return (← runPipeline run none commands 0, true)
  | .background line body => do return (← startJob run line body, true)
  | .subshell line body redirections => do
    return (← runSubshell run tested line body redirections, true)
  | .redirected line body redirections => do
    changeSession fun s => { s with line := line }
    return ((← redirected run redirections (run tested body)).getD misuseStatus, true)
  | .branch condition thenPart elsePart => do
    let status ← run true condition
    if status = 0 then return (← run tested thenPart, false)
    else match elsePart with
      | some command => return (← run tested command, false)
      | none => return (0, false)
  | .loop whileTrue condition body => do
    return (← inLoop (runLoop run tested whileTrue condition body maxRounds 0), false)
  | .forEach line name words body => do
    changeSession fun s => { s with line := line }
    let fields ← expandAll (substitute run) words
    return (← inLoop (runForEach run tested name body fields 0), false)
  | .choice line subject cases => do
    changeSession fun s => { s with line := line }
    let text ← expandText (substitute run) subject
    return (← runCases run tested text.toList cases, false)
  | .define name body => do
    changeSession fun s =>
      { s with functions := (name, body) :: s.functions.filter (·.1 != name) }
    return (0, false)

/-- Runs a command with what signals ask for around it, and ends a script that is to end at the
first failure. -/
def runStep (tested : Bool) (command : Command) : ShellM Nat := do
  if (← getSession).has 'n' then return 0
  passTime commandTime
  if !(← get).sleepers.isEmpty then wakeDue run maxTurns
  runTraps run
  let (status, checked) ← runCommand run tested command
  setStatus status
  runTraps run
  if checked && !tested && status != 0 && (← getSession).has 'e' then throw (.exited status)
  return status

end Running

/-- Runs commands that stand in each other at most `depth` deep. -/
def evaluate : Nat → Runner
  | 0 => fun _ _ => throw .failed
  | depth + 1 => runStep (evaluate depth)

/-- How deep commands can stand in each other. -/
def maxDepth : Nat := 1000000

end UnityBuild.Shell
