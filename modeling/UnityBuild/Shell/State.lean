import UnityBuild.FileSystem.Write
import UnityBuild.Shell.Number
import UnityBuild.Shell.Script
import UnityBuild.Text.Octets

/-!
# The state of running scripts

A running shell has a session of its own: variables, functions, arguments, options and the
descriptors through which it reads and writes. Files, and what descriptors lead to, are shared by
all that runs. All texts of a session are texts of bytes.
-/

namespace UnityBuild.Shell

/-- What an open file leads to. -/
inductive Channel where
  | nowhere
  | file (place : Location)
  | device (device : Device)
  | memory (content : ByteArray)

/-- An open file and the place in it at which the next byte is read or written. What is written to
a pipe while nobody reads from it is bounded. -/
structure OpenFile where
  channel : Channel
  isPipe : Bool := false
  offset : Nat := 0
  readable : Bool := true
  writable : Bool := true
  appends : Bool := false

/-- A variable; it can have a role without having a value. -/
structure Variable where
  value : Option String
  exported : Bool := false
  readOnly : Bool := false
deriving DecidableEq, Repr

/-- A process that was started and not waited for, and whether its end was noticed. -/
structure Child where
  number : Nat
  noticed : Bool := false
deriving DecidableEq, Repr

/-- How a process ended. -/
inductive ProcessEnd where
  | exited (status : Nat)
  | killed (signal : Nat)
deriving DecidableEq, Repr

/-- The variables and options that a function hides, as they were before. -/
structure Frame where
  bindings : List (String × Option Variable) := []
  options : Option (List Char) := none

/-- What a process keeps for itself. The number of a shell is that of the process it was started in;
a part of a script that runs on its own has another process and keeps the number. A program that is
no shell keeps the name it was called by, and why what it wrote was lost. Of the programs that were
found it is known which directory of the search path they are in. -/
structure Session where
  name : String
  program : String := ""
  lost : Option SystemError := none
  directory : String := ""
  arguments : List String := []
  bindings : List (String × Variable) := []
  functions : List (String × Command) := []
  aliases : List (String × String) := []
  found : List (String × Nat) := []
  hereTexts : HereTexts := #[]
  options : List Char := []
  traps : List (Nat × String) := []
  arrived : List Nat := []
  descriptors : List (Nat × Nat) := []
  status : Nat := 0
  savedStatus : Option Nat := none
  substitutionStatus : Nat := 0
  line : Nat := 0
  readLine : Nat := 1
  command : Option String := none
  loopDepth : Nat := 0
  callDepth : Nat := 0
  frames : List Frame := []
  number : Nat := 0
  process : Nat := 0
  parent : Nat := 0
  ancestors : List Nat := []
  children : List Child := []
  background : Option Nat := none
  nextOption : Nat := 1
  optionOffset : Nat := 0

/-- A part of what a process still has to do: a command, or the further rounds of a loop. -/
inductive Task where
  | command (command : Command)
  | again (whileTrue : Bool) (condition body : Command)

/-- A process that sleeps: when it wakes up, what it does then, its session and its directory. -/
structure Sleeper where
  number : Nat
  wake : Nat
  tasks : List Task
  session : Session
  place : Location

/-- What runs: a session, the files, all files that were opened, the number of the last process,
and the signals that other processes were sent. Time is counted in millionths of a second; the
processes that sleep and those that ended are known by their numbers. -/
structure State where
  session : Session
  files : FileSystem
  opened : Array OpenFile := #[]
  lastProcess : Nat := 0
  posted : List (Nat × Nat) := []
  clock : Nat := 0
  sleepers : List Sleeper := []
  ended : List (Nat × ProcessEnd × Nat) := []

/-- Why a script does not go on with its next command. -/
inductive Stop where
  | exited (status : Nat)
  | failed
  | killed (signal : Nat)
  | leftLoop (levels : Nat)
  | nextRound (levels : Nat)
  | returned (status : Nat)

/-- A step of a script; what it changed stays when it stops. -/
abbrev ShellM := ExceptT Stop (StateM State)

/-- The status of what a shell cannot do. -/
def misuseStatus : Nat := 2

/-- Runs an action and then changes the state, however the action ended. -/
def finallyChange {α : Type} (action : ShellM α) (change : State → State) : ShellM α :=
  ExceptT.mk do
    let result ← action.run
    modify change
    return result

/-- Changes the session. -/
def changeSession (change : Session → Session) : ShellM Unit :=
  modify fun s => { s with session := change s.session }

/-- The session. -/
def getSession : ShellM Session :=
  return (← get).session

/-- Remembers the status of a command. -/
def setStatus (status : Nat) : ShellM Unit :=
  changeSession fun s => { s with status := status }

/-! ### Writing and reading -/

/-- The open file behind a descriptor. -/
def fileOf? (descriptor : Nat) : ShellM (Option (Nat × OpenFile)) := do
  let s ← get
  match s.session.descriptors.lookup descriptor with
  | some number => return s.opened[number]?.map fun file => (number, file)
  | none => return none

/-- Bytes written over others from a place on. -/
def overwriteAt (content : ByteArray) (offset : Nat) (bytes : ByteArray) : ByteArray :=
  if offset = content.size then content ++ bytes
  else
    let gap : ByteArray := ⟨Array.replicate (offset - content.size) 0⟩
    content.extract 0 offset ++ gap ++ bytes ++
      content.extract (offset + bytes.size) content.size

/-- Adds bytes to the memory behind an open file. -/
def OpenFile.remember (file : OpenFile) (bytes : ByteArray) : OpenFile :=
  match file with
  | { channel := .memory content, isPipe, offset, readable, writable, appends } =>
    ⟨.memory (content ++ bytes), isPipe, offset, readable, writable, appends⟩
  | file => file

/-- How much can be written to a pipe before it is read from. -/
def pipeSize : Nat := 262144

/-- Whether no more can be written to an open file, because nobody reads from it. -/
def OpenFile.isClogged (file : OpenFile) : Bool :=
  match file.channel with
  | .memory content => file.isPipe && pipeSize < content.size
  | _ => false

/-- Writes bytes to a file of the file system. -/
def writeFile (number : Nat) (file : OpenFile) (place : Location) (bytes : ByteArray) :
    ShellM Unit :=
  modify fun s =>
    match s.files.get? place with
    | some (.file content rights) =>
      let offset := if file.appends then content.size else file.offset
      { s with
        files := s.files.setFile place (overwriteAt content offset bytes) rights
        opened := s.opened.modify number fun file =>
          { file with offset := offset + bytes.size } }
    | _ => s

/-- Writes bytes to a descriptor; false when nothing can be written there. -/
def emit (descriptor : Nat) (bytes : ByteArray) : ShellM Bool := do
  match ← fileOf? descriptor with
  | none => return false
  | some (number, file) =>
    if !file.writable then return false
    match file.channel with
    | .nowhere => return true
    | .device device => return device != .full || bytes.isEmpty
    | .memory _ =>
      if file.isClogged then throw (.killed 13)
      modify fun s => { s with opened := s.opened.modify number (·.remember bytes) }
      return true
    | .file place =>
      writeFile number file place bytes
      return true

/-- Writes a text to a descriptor. -/
def say (descriptor : Nat) (text : String) : ShellM Bool :=
  emit descriptor (Text.toBytes text)

/-- What the memory behind an open file holds. -/
def State.remembered (s : State) (number : Nat) : ByteArray :=
  match s.opened[number]?.map OpenFile.channel with
  | some (.memory content) => content
  | _ => .empty

/-- All that is left to read from an open file. -/
def remaining (s : State) (file : OpenFile) : ByteArray :=
  match file.channel with
  | .nowhere => .empty
  | .device device => (FileSystem.readDevice device).toOption.getD .empty
  | .memory content => content.extract file.offset content.size
  | .file place =>
    match s.files.get? place with
    | some (.file content _) => content.extract file.offset content.size
    | _ => .empty

/-- Reads all that is left behind a descriptor; none when nothing can be read there. -/
def readAll? (descriptor : Nat) : ShellM (Option ByteArray) := do
  match ← fileOf? descriptor with
  | none => return none
  | some (number, file) =>
    if !file.readable then return none
    let bytes := remaining (← get) file
    modify fun s =>
      { s with opened := s.opened.modify number fun file =>
          { file with offset := file.offset + bytes.size } }
    return some bytes

/-- Reads up to the end of a line; tells whether the line had an end, and is none when nothing
can be read. -/
def readLine? (descriptor : Nat) : ShellM (Option (String × Bool)) := do
  match ← fileOf? descriptor with
  | none => return none
  | some (number, file) =>
    if !file.readable then return none
    let bytes := (remaining (← get) file).toList
    let line := bytes.takeWhile (· != 10)
    let ended := line.length < bytes.length
    let taken := if ended then line.length + 1 else line.length
    modify fun s =>
      { s with opened := s.opened.modify number fun file =>
          { file with offset := file.offset + taken } }
    return some (Text.ofBytes ⟨line.toArray⟩, ended)

/-- Opens a file under a new number. -/
def openNew (file : OpenFile) : ShellM Nat := do
  let number := (← get).opened.size
  modify fun s => { s with opened := s.opened.push file }
  return number

/-- Connects a descriptor with an open file. -/
def connect (descriptor number : Nat) : ShellM Unit :=
  changeSession fun s =>
    { s with
      descriptors := (descriptor, number) :: s.descriptors.filter (·.1 != descriptor) }

/-- Closes a descriptor. -/
def disconnect (descriptor : Nat) : ShellM Unit :=
  changeSession fun s => { s with descriptors := s.descriptors.filter (·.1 != descriptor) }

/-! ### Time -/

/-- How long a command of the shell takes. -/
def commandTime : Nat := 10

/-- How long it takes to start a program. -/
def programTime : Nat := 1000

/-- Lets time pass. -/
def passTime (time : Nat) : ShellM Unit :=
  modify fun s => { s with clock := s.clock + time }

/-! ### Complaints -/

/-- The start of a complaint: the shell, the line, and the command that complains. -/
def Session.heading (s : Session) : String :=
  s.name ++ ": " ++ toString s.line ++ ": " ++
    match s.command with
    | some command => command ++ ": "
    | none => ""

/-- Complains and goes on. -/
def complain (text : String) : ShellM Unit := do
  let _ ← say 2 ((← getSession).heading ++ text ++ "\n")

/-- Complains and gives the command up. -/
def fail {α : Type} (text : String) : ShellM α := do
  complain text
  setStatus misuseStatus
  throw .failed

/-! ### Variables and options -/

/-- Whether an option is set. -/
def Session.has (s : Session) (option : Char) : Bool :=
  s.options.contains option

/-- The variable of a name. -/
def Session.find? (s : Session) (name : String) : Option Variable :=
  s.bindings.lookup name

/-- The value of a variable. -/
def Session.value? (s : Session) (name : String) : Option String :=
  (s.find? name).bind (·.value)

/-- Forgets where programs were found when the search path changes. -/
def Session.noticeChange (s : Session) (name : String) : Session :=
  if name = "PATH" then { s with found := [] } else s

/-- Puts a variable in its place. -/
def Session.putVariable (s : Session) (name : String) (v : Variable) : Session :=
  let s := s.noticeChange name
  if (s.find? name).isSome then
    { s with
      bindings := s.bindings.map fun entry => if entry.1 = name then (name, v) else entry }
  else { s with bindings := s.bindings ++ [(name, v)] }

/-- Lets other programs see a variable. -/
def Session.exportVariable (s : Session) (name : String) : Session :=
  match s.find? name with
  | some v => s.putVariable name { v with exported := true }
  | none => s

/-- Removes a variable. -/
def Session.dropVariable (s : Session) (name : String) : Session :=
  { s.noticeChange name with bindings := s.bindings.filter (·.1 != name) }

/-- Puts variables back as they were. -/
def Session.restore (s : Session) (frame : Frame) : Session :=
  let s := frame.bindings.foldl (fun s entry =>
    match entry.2 with
    | some v => s.putVariable entry.1 v
    | none => s.dropVariable entry.1) s
  match frame.options with
  | some options => { s with options := options }
  | none => s

/-- Refuses to change a variable that is read only. -/
def checkWritable (name : String) : ShellM Unit := do
  match (← getSession).find? name with
  | some v => if v.readOnly then fail (name ++ ": is read only")
  | none => return ()

/-- Sets a variable. -/
def setVariable (name value : String) : ShellM Unit := do
  checkWritable name
  changeSession fun s =>
    let old := (s.find? name).getD ⟨none, false, false⟩
    let s := if name = "OPTIND" then
        { s with nextOption := max 1 ((countOf? value).getD 1), optionOffset := 0 }
      else s
    s.putVariable name { old with value := some value, exported := old.exported || s.has 'a' }

/-- The variables that other programs get to see. -/
def Session.environment (s : Session) : List (String × String) :=
  s.bindings.filterMap fun (name, v) =>
    if v.exported then v.value.map fun value => (name, value) else none

/-- What separates words when nothing else is said. -/
def standardSeparators : String := " \t\n"

/-- The characters at which the values of parameters are split. -/
def Session.separators (s : Session) : String :=
  (s.value? "IFS").getD standardSeparators

end UnityBuild.Shell
