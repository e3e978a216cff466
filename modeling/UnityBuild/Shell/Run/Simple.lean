import UnityBuild.Shell.Run.Builtin

/-!
# Running simple commands

The words of a simple command are replaced, its redirections are applied and its variables are set;
then the function, the built-in command or the program of its first word is run.
-/

namespace UnityBuild.Shell

section Running

variable (run : Runner)

/-- The front of a command: its words so far, those that are not replaced yet, all words that were
replaced, and how it is to be looked up. -/
structure CommandFront where
  fields : List String
  words : List Word
  all : List String
  direct : Bool := false
  standard : Bool := false

/-- Replaces words until there is one. -/
def expandLeading : List Word → ShellM (List String × List Word)
  | [] => return ([], [])
  | w :: words => do
    match ← expandFields (substitute run) w with
    | [] => expandLeading words
    | fields => return (fields, words)

/-- Makes sure that there is a further word, if there is any. -/
def withNext (front : CommandFront) : ShellM CommandFront := do
  if 1 < front.fields.length then return front
  let (fields, words) ← expandLeading run front.words
  return { front with fields := front.fields ++ fields, words, all := front.all ++ fields }

/-- Whether the letters of an option of `command` ask for the standard directories only. -/
def asksForStandard (text : String) : Bool :=
  match text.toList with
  | '-' :: letter :: letters => (letter :: letters).all (· == 'p')
  | _ => false

/-- Drops the options of `command` in front of the command that it runs; none when it is to tell
something instead. -/
def dropOptions : Nat → CommandFront → ShellM (Option CommandFront)
  | 0, _ => return none
  | rounds + 1, front => do
    let front ← withNext run front
    match front.fields with
    | _ :: next :: others =>
      if next = "--" then
        let front ← withNext run { front with fields := next :: others }
        return if front.fields.length < 2 then none
          else some { front with fields := front.fields.drop 1, direct := true }
      else if asksForStandard next then
        dropOptions rounds { front with fields := next :: others, standard := true }
      else if 1 < next.length && next.toList.head? = some '-' then return none
      else return some { front with fields := next :: others, direct := true }
    | _ => return none

/-- What a command is run by. -/
inductive Target where
  | nothing
  | function (body : Command)
  | builtin (name : String) (special : Bool)
  | program

/-- What the front of a command is run by. -/
def CommandFront.target (front : CommandFront) (s : Session) : Target :=
  match front.fields with
  | [] => .nothing
  | name :: _ =>
    match if front.direct then none else s.functions.lookup name with
    | some body => .function body
    | none =>
      if isBuiltin name then .builtin name (!front.direct && specialBuiltins.contains name)
      else .program

/-- Passes over `command` in front of a command. -/
def passOver : Nat → CommandFront → ShellM CommandFront
  | 0, front => return front
  | rounds + 1, front => do
    match front.target (← getSession) with
    | .builtin "command" _ =>
      match ← dropOptions run (front.words.length + front.fields.length + 1) front with
      | some inner => passOver rounds inner
      | none => return front
    | _ => return front

/-- The commands whose arguments set variables. -/
def declarations : List String := ["export", "readonly", "local"]

/-- Replaces the words behind the front of a command. -/
def expandRest (declares : Bool) : List Word → ShellM (List String)
  | [] => return []
  | w :: words => do
    let fields ← match if declares then w.assignment? else none with
      | some (name, value) => pure [name ++ "=" ++ (← expandValue (substitute run) value)]
      | none => expandFields (substitute run) w
    return fields ++ (← expandRest declares words)

/-- Sets the variables in front of a command. When they are its own, they are remembered for
putting them back. -/
def assignAll (own : Bool) : List Word → ShellM (List (String × String) × Frame)
  | [] => return ([], {})
  | w :: words => do
    match w.assignment? with
    | none => assignAll own words
    | some (name, value) =>
      let value ← expandValue (substitute run) value
      let before := (← getSession).find? name
      setVariable name value
      if own then changeSession (·.exportVariable name)
      let (others, frame) ← assignAll own words
      return ((name, value) :: others,
        if own then { frame with bindings := frame.bindings ++ [(name, before)] } else frame)

/-- Tells a command before it runs, when that was asked for. -/
def trace (errors : Option Nat) (assigned : List (String × String)) (words : List String) :
    ShellM Unit := do
  let s ← getSession
  if s.has 'x' then
    let mark := (s.value? "PS4").getD ""
    let shown := assigned.map (fun (name, value) => name ++ "=" ++ value) ++ words
    let text := mark ++ String.intercalate " " shown ++ "\n"
    let now := s.descriptors
    changeSession fun s =>
      { s with descriptors := match errors with
          | some number => (2, number) :: s.descriptors.filter (·.1 != 2)
          | none => s.descriptors.filter (·.1 != 2) }
    let _ ← say 2 text
    changeSession fun s => { s with descriptors := now }

/-- Runs a command whose words were replaced. -/
def runTarget (tested : Bool) (front : CommandFront) (target : Target) (words : List String) :
    ShellM Nat := do
  match target with
  | .nothing => return (← getSession).substitutionStatus
  | .function body => callFunction run tested body (words.drop 1)
  | .program => runProgram run front.standard words
  | .builtin name special =>
    let action := asCommand name (runBuiltin run tested name (words.drop 1))
    if special then action else return (← unlessFailed action).getD misuseStatus

/-- Whether variables in front of a command are its own. -/
def Target.ownsVariables : Target → Bool
  | nothing => false
  | builtin _ special => !special
  | _ => true

/-- Runs a simple command. -/
def runSimple (tested : Bool) (line : Nat) (assignments words : List Word)
    (redirections : List Redirection) : ShellM Nat := do
  changeSession fun s => { s with line := line, substitutionStatus := 0 }
  let (fields, rest) ← expandLeading run words
  let front ← passOver run (words.length + 1) ⟨fields, rest, fields, false, false⟩
  let target := front.target (← getSession)
  let declares := match target with
    | .builtin name _ => declarations.contains name
    | _ => false
  let behind ← expandRest run declares front.words
  let words := front.fields ++ behind
  let errors := (← getSession).descriptors.lookup 2
  let descriptors := (← getSession).descriptors
  let connections ← expandRedirections (substitute run) redirections
  let isExec := match target with
    | .builtin "exec" _ => true
    | _ => false
  let action : ShellM Nat := do
    let (assigned, frame) ← assignAll run target.ownsVariables assignments
    if isExec && 1 < words.length then
      assigned.forM fun entry => changeSession (·.exportVariable entry.1)
    trace errors assigned (front.all ++ behind)
    finallyChange (runTarget run tested front target words) fun s =>
      { s with session := s.session.restore frame }
  let restore (s : State) : State :=
    { s with session := { s.session with descriptors := descriptors } }
  if connections.isEmpty then action
  else match ← unlessFailed (connections.forM Connection.apply) with
    | none =>
      modify restore
      match target with
      | .builtin _ true => throw .failed
      | _ => return misuseStatus
    | some () => if isExec then action else finallyChange action restore

end Running

end UnityBuild.Shell
