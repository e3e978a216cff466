/-!
# Signals

Signals have numbers and names. Most end a process that does not care for them; of a program that a
signal ended, the shell tells the text of the signal.
-/

namespace UnityBuild.Shell

/-- A signal. -/
structure Signal where
  number : Nat
  name : String
  text : String
deriving DecidableEq, Repr

namespace Signal

/-- The signals that have names of their own. -/
def common : List Signal :=
  [⟨1, "HUP", "Hangup"⟩, ⟨2, "INT", "Interrupt"⟩, ⟨3, "QUIT", "Quit"⟩,
    ⟨4, "ILL", "Illegal instruction"⟩, ⟨5, "TRAP", "Trace/breakpoint trap"⟩,
    ⟨6, "ABRT", "Aborted"⟩, ⟨7, "BUS", "Bus error"⟩, ⟨8, "FPE", "Floating point exception"⟩,
    ⟨9, "KILL", "Killed"⟩, ⟨10, "USR1", "User defined signal 1"⟩,
    ⟨11, "SEGV", "Segmentation fault"⟩, ⟨12, "USR2", "User defined signal 2"⟩,
    ⟨13, "PIPE", "Broken pipe"⟩, ⟨14, "ALRM", "Alarm clock"⟩, ⟨15, "TERM", "Terminated"⟩,
    ⟨16, "16", "Stack fault"⟩, ⟨17, "CHLD", "Child exited"⟩, ⟨18, "CONT", "Continued"⟩,
    ⟨19, "STOP", "Stopped (signal)"⟩, ⟨20, "TSTP", "Stopped"⟩,
    ⟨21, "TTIN", "Stopped (tty input)"⟩, ⟨22, "TTOU", "Stopped (tty output)"⟩,
    ⟨23, "URG", "Urgent I/O condition"⟩, ⟨24, "XCPU", "CPU time limit exceeded"⟩,
    ⟨25, "XFSZ", "File size limit exceeded"⟩, ⟨26, "VTALRM", "Virtual timer expired"⟩,
    ⟨27, "PROF", "Profiling timer expired"⟩, ⟨28, "WINCH", "Window changed"⟩,
    ⟨29, "IO", "I/O possible"⟩, ⟨30, "PWR", "Power failure"⟩, ⟨31, "SYS", "Bad system call"⟩,
    ⟨32, "32", "Unknown signal 32"⟩, ⟨33, "33", "Unknown signal 33"⟩]

/-- The first signal without a meaning of its own. -/
def firstFree : Nat := 34

/-- The last signal. -/
def last : Nat := 64

/-- The name of a signal without a meaning of its own: it is counted from the nearer end. -/
def freeName (number : Nat) : String :=
  if number = firstFree then "RTMIN"
  else if number = last then "RTMAX"
  else if number - firstFree ≤ 15 then "RTMIN+" ++ toString (number - firstFree)
  else "RTMAX-" ++ toString (last - number)

/-- All signals, by their numbers. -/
def all : List Signal :=
  common ++ (List.range (last + 1 - firstFree)).map fun i =>
    ⟨firstFree + i, freeName (firstFree + i), "Real-time signal " ++ toString i⟩

/-- The signal of a number. -/
def ofNumber? (number : Nat) : Option Signal :=
  all.find? fun signal => signal.number == number

/-- The name of a number; the end of the shell is counted as number zero. -/
def nameOf (number : Nat) : String :=
  if number = 0 then "EXIT" else ((ofNumber? number).map Signal.name).getD (toString number)

/-- The number of a signal that is given by its name or its number. Names can be written in small
letters. -/
def number? (withExit : Bool) (text : String) : Option Nat :=
  if !text.isEmpty && text.toList.all Char.isDigit then
    match text.toNat? with
    | some n => if n ≤ last then some n else none
    | none => none
  else
    let name := String.ofList (text.toList.map Char.toUpper)
    if withExit && name = "EXIT" then some 0
    else (all.find? fun signal => signal.name == name).map Signal.number

/-- Signals that a process does not notice when it does not care for them. -/
def unnoticed : List Nat := [0, 17, 18, 23, 28]

/-- Signals that no process can care for. -/
def unavoidable : List Nat := [9, 19]

/-- Signals that the shell does not tell of. -/
def untold : List Nat := [2, 13]

/-- The number that is added to that of a signal to get a status. -/
def statusBase : Nat := 128

end Signal

end UnityBuild.Shell
