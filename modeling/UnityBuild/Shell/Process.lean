import UnityBuild.Shell.Builtin.Signals

/-!
# Processes

A part of a script that runs as a process of its own cannot change the session around it, nor the
directory that the script is in. Files, and what was written to open ones, stay changed. All
processes run one after the other.
-/

namespace UnityBuild.Shell

/-- The status of a process that ended. -/
def ProcessEnd.status : ProcessEnd → Nat
  | exited status => status % 256
  | killed signal => Signal.statusBase + signal

/-- How a process ends when its work stops. -/
def Stop.processEnd : Stop → ProcessEnd
  | exited status => .exited status
  | failed => .exited misuseStatus
  | killed signal => .killed signal
  | leftLoop _ => .exited 0
  | nextRound _ => .exited 0
  | returned status => .exited status

/-- Runs an action to its end, whatever that is. -/
def attempt (action : ShellM Nat) : ShellM ProcessEnd :=
  ExceptT.mk do
    match ← action.run with
    | .ok status => return .ok (.exited status)
    | .error stop => return .ok stop.processEnd

/-- Runs an action; none when it was given up with a complaint. -/
def unlessFailed {α : Type} (action : ShellM α) : ShellM (Option α) :=
  ExceptT.mk do
    match ← action.run with
    | .ok result => return .ok (some result)
    | .error .failed => return .ok none
    | .error stop => return .error stop

/-- The session of a part of a script that runs as a process of its own. -/
def Session.forked (s : Session) (number : Nat) : Session :=
  { s with
    process := number
    ancestors := s.process :: s.ancestors
    children := []
    traps := s.traps.filter (·.2.isEmpty)
    arrived := []
    savedStatus := none }

/-- Notices which processes that were started have ended. -/
def noticeEnded : ShellM Unit :=
  modify fun s =>
    if s.session.children.isEmpty then s
    else { s with session := { s.session with
      children := s.session.children.map fun child =>
        { child with noticed := child.noticed || (s.ended.lookup child.number).isSome } } }

/-- Runs an action as a process of its own. -/
def inChild (action : ShellM Nat) : ShellM ProcessEnd := do
  let session ← getSession
  let place := (← get).files.workingDirectory
  let number := (← get).lastProcess + 1
  modify fun s => { s with lastProcess := number, session := session.forked number }
  let result ← attempt action
  modify fun s =>
    { s with session := session, files := { s.files with workingDirectory := place } }
  noticeEnded
  receivePosted
  return result

/-- Tells of a process that a signal ended, and gives its status. -/
def ProcessEnd.tell (result : ProcessEnd) : ShellM Nat := do
  match result with
  | .killed signal => tellSignal signal
  | .exited _ => pure ()
  return result.status

/-- Runs an action as the whole work of a shell: what was asked for at its end is done then, and
can give another status only by leaving the shell again. -/
def asShell (runText : String → ShellM Nat) (action : ShellM Nat) : ShellM Nat := do
  match ← attempt action with
  | .killed signal => throw (.killed signal)
  | .exited status =>
    let atEnd := (← getSession).traps.lookup 0
    changeSession fun s =>
      { s with
        traps := s.traps.filter (·.1 != 0)
        status := status
        savedStatus := some status
        loopDepth := 0 }
    match atEnd with
    | some text => afterwards status (runText text)
    | none => return status
where
  afterwards (status : Nat) (action : ShellM Nat) : ShellM Nat :=
    ExceptT.mk do
      match ← action.run with
      | .error (.exited status) => return .ok status
      | .error (.killed signal) => return .error (.killed signal)
      | _ => return .ok status

end UnityBuild.Shell
