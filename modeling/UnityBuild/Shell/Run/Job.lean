import UnityBuild.Shell.Duration
import UnityBuild.Shell.Run.Text

/-!
# Processes in the background

A process in the background runs until it sleeps, or for a while, and then again when its time has
come; between such turns all other processes go on. Where a process sleeps is seen at the commands
that it consists of, one after the other.

Main definitions: `startJob`, `wakeDue` and `waitCommand`.
-/

namespace UnityBuild.Shell

/-- How long a process runs before others get their turn. -/
def turnTime : Nat := 500000

/-- How many turns there are at most. -/
def maxTurns : Nat := 1000000000000

/-- How long a command sleeps, if it does nothing else. -/
def pauseOf? : Command → Option Nat
  | .simple _ [] (name :: words) _ =>
    if Word.bare? name = some "sleep" && !words.isEmpty then
      (words.mapM fun word => (Word.bare? word).bind durationOf?).map (·.foldl (· + ·) 0)
    else none
  | _ => none

/-- A turn of a process: it sleeps with something left to do, or has done all. -/
inductive Turn where
  | paused (wake : Nat) (tasks : List Task)
  | done (status : Nat)

/-- What is left to do behind the loop that a process is in. -/
def afterLoop : List Task → List Task
  | [] => []
  | .again .. :: tasks => tasks
  | _ :: tasks => afterLoop tasks

/-- What is left to do from the next round of a loop on. -/
def fromLoop : List Task → List Task
  | [] => []
  | .again whileTrue condition body :: tasks => .again whileTrue condition body :: tasks
  | _ :: tasks => fromLoop tasks

/-- What is left to do when a command was left: behind so many loops, or from the next round of
such a loop on. -/
def leaveTasks (stays : Bool) : Nat → List Task → List Task
  | 0, tasks => tasks
  | 1, tasks => if stays then fromLoop tasks else afterLoop tasks
  | levels + 2, tasks => leaveTasks stays (levels + 1) (afterLoop tasks)

/-- How many loops a process is in. -/
def loopsAround (tasks : List Task) : Nat :=
  tasks.countP fun task => match task with
    | .again .. => true
    | .command _ => false

/-- Runs a command inside of loops that are told by what is left to do. The result is the status of
the command and what is left to do behind it. -/
def runInside (action : ShellM Nat) (tasks : List Task) : ShellM (Nat × List Task) := do
  let depth := loopsAround tasks
  changeSession fun s => { s with loopDepth := depth }
  ExceptT.mk do
    match ← action.run with
    | .ok status => return .ok (status, tasks)
    | .error (.leftLoop levels) => return .ok (0, leaveTasks false levels tasks)
    | .error (.nextRound levels) => return .ok (0, leaveTasks true levels tasks)
    | .error stop => return .error stop

section Running

variable (run : Runner)

/-- Runs what a process has to do until it sleeps, or until the time of its turn is over; `rounds`
bounds how much that is. -/
def runTurn (limit : Nat) : Nat → List Task → ShellM Turn
  | 0, tasks => return .paused (← get).clock tasks
  | rounds + 1, tasks => do
    let now := (← get).clock
    match tasks with
    | [] => return .done (← getSession).status
    | task :: rest =>
      if limit < now then return .paused now tasks
      match task with
      | .again whileTrue condition body =>
        let (decision, left) ← runInside (run true condition) (task :: rest)
        if left.length ≤ rest.length then runTurn limit rounds left
        else if (decision = 0) = whileTrue then runTurn limit rounds (.command body :: task :: rest)
        else
          setStatus 0
          runTurn limit rounds rest
      | .command command =>
        match pauseOf? command with
        | some time =>
          setStatus 0
          return .paused (now + time) rest
        | none =>
          match command with
          | .sequence commands => runTurn limit rounds (commands.map .command ++ rest)
          | .loop whileTrue condition body =>
            runTurn limit rounds (.again whileTrue condition body :: rest)
          | .both first second =>
            if (pauseOf? first).isSome then
              runTurn limit rounds (.command first :: .command second :: rest)
            else
              let (status, left) ← runInside (run true first) rest
              setStatus status
              if status = 0 then runTurn limit rounds (.command second :: left)
              else runTurn limit rounds left
          | .branch condition thenPart elsePart =>
            let (decision, left) ← runInside (run true condition) rest
            if decision = 0 then runTurn limit rounds (.command thenPart :: left)
            else
              setStatus 0
              runTurn limit rounds (elsePart.toList.map .command ++ left)
          | .subshell _ body redirections =>
            if rest.isEmpty then
              let connections ← expandRedirections (writtenBy run fun _ => return ()) redirections
              connections.forM Connection.apply
              runTurn limit rounds [.command body]
            else runPlain command rounds rest
          | command => runPlain command rounds rest
where
  runPlain (command : Command) (rounds : Nat) (rest : List Task) : ShellM Turn := do
    let (status, left) ← runInside (run false command) rest
    setStatus status
    runTurn limit rounds left

/-- Lets a process that sleeps go on until it sleeps again or ends. -/
def resume (sleeper : Sleeper) : ShellM Unit := do
  let outer ← get
  set { outer with
    session := sleeper.session
    clock := sleeper.wake
    sleepers := outer.sleepers.filter (·.number != sleeper.number)
    files := { outer.files with workingDirectory := sleeper.place } }
  let turn ← ExceptT.mk do
    let action : ShellM Turn := do
      runTraps run
      runTurn run (sleeper.wake + turnTime) maxTurns sleeper.tasks
    match ← action.run with
    | .ok turn => return .ok (Except.ok turn)
    | .error stop => return .ok (Except.error stop)
  match turn with
  | .ok (.paused wake tasks) =>
    modify fun s => { s with sleepers := s.sleepers ++
      [{ sleeper with wake, tasks, session := s.session, place := s.files.workingDirectory }] }
  | .ok (.done status) => finish (return status)
  | .error stop => finish (throw stop)
  modify fun s => { s with
    session := outer.session
    clock := outer.clock
    files := { s.files with workingDirectory := outer.files.workingDirectory } }
  receivePosted
where
  finish (action : ShellM Nat) : ShellM Unit := do
    let result ← attempt (asShell (runText run false) action)
    modify fun s => { s with ended := (sleeper.number, result, s.clock) :: s.ended }

/-- The process that wakes up first. -/
def firstToWake? (sleepers : List Sleeper) : Option Sleeper :=
  sleepers.foldl (fun first sleeper =>
    match first with
    | some earlier => if sleeper.wake < earlier.wake then some sleeper else some earlier
    | none => some sleeper) none

/-- Lets all processes go on whose time has come; `turns` bounds how many turns that takes. -/
def wakeDue : Nat → ShellM Unit
  | 0 => return ()
  | turns + 1 => do
    let s ← get
    match firstToWake? s.sleepers with
    | none => return ()
    | some sleeper =>
      if sleeper.wake ≤ s.clock then
        resume run sleeper
        wakeDue turns
      else return ()

/-- Lets other processes go on until something holds, and tells whether a signal arrived before;
`turns` bounds how many turns that takes. -/
def awaitUntil (isInterrupted : Bool) (holds : State → Bool) : Nat → ShellM Bool
  | 0 => return false
  | turns + 1 => do
    let s ← get
    if isInterrupted && !s.session.arrived.isEmpty then return true
    if holds s then return false
    match firstToWake? s.sleepers with
    | none => return false
    | some sleeper =>
      passTime (sleeper.wake - s.clock)
      resume run sleeper
      awaitUntil isInterrupted holds turns

/-- Waits until no other process can write to an open file. -/
def awaitWriters (number : Nat) : ShellM Unit := do
  let _ ← awaitUntil run false (fun s => s.sleepers.all fun sleeper =>
    sleeper.session.descriptors.all (·.2 != number)) maxTurns

/-- What a command writes. -/
def substitute (body : Command) : ShellM String :=
  writtenBy run (awaitWriters run) body

/-- Runs an action with redirections, and puts the descriptors back. The result is none when a
redirection failed. -/
def redirected (redirections : List Redirection) (action : ShellM Nat) : ShellM (Option Nat) := do
  if redirections.isEmpty then return some (← action)
  let connections ← expandRedirections (substitute run) redirections
  let before := (← getSession).descriptors
  let restore (s : State) : State := { s with session := { s.session with descriptors := before } }
  match ← unlessFailed (connections.forM Connection.apply) with
  | none =>
    modify restore
    return none
  | some () => return some (← finallyChange action restore)

/-- Waits until all other processes have ended. -/
def awaitAll : ShellM Unit := do
  let _ ← awaitUntil run false (fun s => s.sleepers.isEmpty) maxTurns

/-- Starts a command as a process in the background. -/
def startJob (line : Nat) (body : Command) : ShellM Nat := do
  changeSession fun s => { s with line := line }
  let s ← get
  let number := s.lastProcess + 1
  let input ← openNew { channel := .nowhere }
  let forked := s.session.forked number
  let session := { forked with
    descriptors := (0, input) :: forked.descriptors.filter (·.1 != 0) }
  modify fun s => { s with lastProcess := number }
  resume run ⟨number, s.clock, [.command body], session, s.files.workingDirectory⟩
  changeSession fun s =>
    { s with
      background := some number
      children := s.children ++ [⟨number, false⟩] }
  return 0

/-- Waits for a process that was started. Its end by a signal is told if it was not noticed
before; a signal that arrives ends the waiting. -/
def waitFor (tells : Bool) (child : Child) : ShellM Nat := do
  let interrupted ← awaitUntil run true (fun s => !s.sleepers.any (·.number == child.number))
    maxTurns
  if interrupted then return Signal.statusBase + (← getSession).arrived.headD 0
  match (← get).ended.lookup child.number with
  | none => return 127
  | some (result, time) =>
    modify fun s => { s with clock := max s.clock time }
    match result, child.noticed || !tells with
    | .killed signal, false => tellSignal signal
    | _, _ => pure ()
    noticeEnded
    return result.status

/-- Waits for processes. -/
def waitCommand (arguments : List String) : ShellM Nat := do
  let (_, arguments) ← readOptions "" arguments
  if arguments.isEmpty then
    (← getSession).children.foldlM (fun status child => do
      if status != 0 then return status
      let result ← waitFor run false child
      return if (← getSession).arrived.isEmpty then 0 else result) 0
  else
    arguments.foldlM (fun _ text => do
      let children := (← getSession).children
      match text.toList with
      | '%' :: _ => waitFor run true (← jobNamed text)
      | _ =>
        let number ← readCount text
        match children.find? fun child => child.number == number with
        | some child => waitFor run true child
        | none => return 127) 0

end Running

end UnityBuild.Shell
