import UnityBuild.Shell.Builtin.Arguments
import UnityBuild.Shell.Signal

/-!
# Built-in commands on signals and processes

A shell can send signals, and say what is to be done when one arrives or when it ends. A signal to
the shell itself arrives at once; one to a shell that waits for this one arrives when that goes on.
-/

namespace UnityBuild.Shell

/-- Lets a signal arrive. One that is not cared for ends the process. -/
def receive (signal : Nat) : ShellM Unit := do
  let s ← getSession
  let cared := if Signal.unavoidable.contains signal then none else s.traps.lookup signal
  match cared with
  | some "" => return ()
  | some _ => changeSession fun s => { s with arrived := s.arrived ++ [signal] }
  | none => if Signal.unnoticed.contains signal then return () else throw (.killed signal)

/-- Lets the signals arrive that others sent to this process. -/
def receivePosted : ShellM Unit := do
  let own := (← getSession).process
  let mine := (← get).posted.filter (·.1 == own)
  modify fun s => { s with posted := s.posted.filter (·.1 != own) }
  mine.forM fun entry => receive entry.2

/-- Lets a signal arrive at a process that sleeps. It acts on it when it wakes up, unless it does
not care for the signal. -/
def Sleeper.receive (sleeper : Sleeper) (signal : Nat) : ShellM Unit := do
  let cared := if Signal.unavoidable.contains signal then none
    else sleeper.session.traps.lookup signal
  match cared with
  | some "" => return ()
  | some _ =>
    modify fun s => { s with sleepers := s.sleepers.map fun other =>
      if other.number = sleeper.number then
        { other with session :=
            { other.session with arrived := other.session.arrived ++ [signal] } }
      else other }
  | none =>
    if Signal.unnoticed.contains signal then return ()
    modify fun s =>
      { s with
        sleepers := s.sleepers.filter (·.number != sleeper.number)
        ended := (sleeper.number, .killed signal, s.clock) :: s.ended }

/-- Sends a signal to a process; false when there is no such process. -/
def sendSignal (target signal : Nat) : ShellM Bool := do
  let s ← getSession
  if target = s.process then
    receive signal
    return true
  else if s.ancestors.contains target then
    modify fun state => { state with posted := state.posted ++ [(target, signal)] }
    return true
  else
    match (← get).sleepers.find? (·.number == target) with
    | some sleeper =>
      sleeper.receive signal
      return true
    | none => return s.children.any fun child => child.number == target && !child.noticed

/-- How signals are to be sent. -/
def killUsage : String :=
  "Usage: kill [-s sigspec | -signum | -sigspec] [pid | job]... or\nkill -l [exitstatus]"

/-- Tells the names of signals. -/
def listSignals : List String → ShellM Nat
  | [] => output ("0\n" ++ String.join (Signal.all.map fun signal => signal.name ++ "\n"))
  | text :: _ => do
    let n ← readCount text
    let n := if Signal.statusBase < n then n - Signal.statusBase else n
    if 0 < n ∧ n ≤ Signal.last then output (Signal.nameOf n ++ "\n")
    else fail ("invalid signal number or exit status: " ++ text)

/-- The process that a name with a percent sign stands for. -/
def jobNamed (name : String) : ShellM Child := do
  let children := (← getSession).children
  let text := String.ofList (name.toList.drop 1)
  if ["", "%", "+"].contains text then
    match children.getLast? with
    | some child => return child
    | none => fail "No current job"
  else if text = "-" then
    match children.dropLast.getLast? with
    | some child => return child
    | none => fail "No previous job"
  else
    match (countOf? text).bind fun n => if n = 0 then none else children[n - 1]? with
    | some child => return child
    | none => fail ("No such job: " ++ name)

/-- Sends a signal to processes; the status tells whether all were there. Processes that are named
as a group are none, as none has a group of its own. -/
def sendToAll (signal : Nat) : Nat → List String → ShellM Nat
  | status, [] => return status
  | status, target :: targets => do
    if ← send target then sendToAll signal status targets
    else
      complain "No such process\n"
      sendToAll signal 1 targets
where
  send (target : String) : ShellM Bool := do
    match target.toList with
    | '%' :: _ =>
      let _ ← jobNamed target
      return false
    | '-' :: number => sendSignal (← readCount (String.ofList number)) signal
    | _ => sendSignal (← readCount target) signal

/-- The signal that the first argument of `kill` names, if it does. -/
def leadingSignal? : List String → Option (Nat × List String)
  | first :: others =>
    match first.toList with
    | '-' :: name => (Signal.number? false (String.ofList name)).map fun n => (n, others)
    | _ => none
  | [] => none

/-- Sends signals, or tells their names. -/
def killCommand (arguments : List String) : ShellM Nat := do
  match leadingSignal? arguments with
  | some (_, []) => fail killUsage
  | some (signal, targets) => sendToAll signal 0 targets
  | none =>
    let (options, targets) ← readOptions "ls:" arguments
    let named := (options.filter (·.1 == 's')).getLast?.map (·.2)
    let signal ← match named with
      | none => pure 15
      | some name =>
        match Signal.number? false name with
        | some signal => pure signal
        | none => fail ("invalid signal number or name: " ++ name)
    if options.any (·.1 == 'l') then
      if named.isSome then fail killUsage else listSignals targets
    else if targets.isEmpty then fail killUsage
    else sendToAll signal 0 targets

/-- Sets what is done when signals arrive; the status tells whether all were known. -/
def setTraps (action : Option String) : List String → ShellM Nat
  | [] => return 0
  | name :: names => do
    match Signal.number? true name with
    | none =>
      let _ ← say 2 ("trap: " ++ name ++ ": bad trap\n")
      return 1
    | some signal =>
      changeSession fun s =>
        let others := s.traps.filter (·.1 != signal)
        { s with
          traps := match action with
            | some action => others ++ [(signal, action)]
            | none => others }
      setTraps action names

/-- Whether an argument of `trap` is the number of a signal and no action. -/
def isSignalNumber (text : String) : Bool :=
  !text.isEmpty && text.toList.all Char.isDigit && (Signal.number? true text).isSome

/-- Says what is done when signals arrive, or tells what was said. -/
def trapCommand (arguments : List String) : ShellM Nat := do
  match (← readOptions "" arguments).2 with
  | [] =>
    let traps := (← getSession).traps.mergeSort fun a b => a.1 ≤ b.1
    output (String.join (traps.map fun (signal, action) =>
      "trap -- " ++ quoteText action ++ " " ++ Signal.nameOf signal ++ "\n"))
  | [only] => setTraps none [only]
  | action :: names =>
    if isSignalNumber action then setTraps none (action :: names)
    else if action = "-" then setTraps none names
    else setTraps (some action) names

/-- Tells of a process that a signal ended. -/
def tellSignal (signal : Nat) : ShellM Unit := do
  if !Signal.untold.contains signal then
    let text := ((Signal.ofNumber? signal).map Signal.text).getD ""
    let _ ← say 2 (text ++ "\n")

end UnityBuild.Shell
