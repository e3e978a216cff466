import UnityBuild.Shell.Edit.Script

/-!
# Running editing scripts

A script runs once for every line. The line is held in the pattern space, which is written when the
script ends, and a second space keeps text between lines. What is to stand behind a line waits until
the line was written.
-/

namespace UnityBuild.Shell.Edit

/-- A line that is read, and whether it had an end. -/
structure Line where
  text : List Char
  ended : Bool := true

/-- A text that grows by lines. The last line may lack its end, which it gets when something
follows. -/
structure Sink where
  text : String := ""
  unended : Bool := false

/-- Adds a text as it is. -/
def Sink.add (sink : Sink) (text : String) : Sink :=
  ⟨sink.text ++ (if sink.unended then "\n" else "") ++ text, false⟩

/-- Adds a line. -/
def Sink.say (sink : Sink) (text : List Char) (ended : Bool) : Sink :=
  { sink.add (String.ofList text ++ if ended then "\n" else "") with unended := !ended }

/-- What a script works on. -/
structure Work where
  rest : List Line
  quiet : Bool := false
  number : Nat := 0
  space : List Char := []
  ended : Bool := true
  kept : List Char := []
  output : Sink := {}
  /-- What waits until the line was written. -/
  waiting : List String := []
  changed : Bool := false
  /-- The expression that was looked for last. -/
  recent : Option Regex := none
  /-- The ranges that are open, by the positions of their instructions, with the line that they
  end at if it is known. -/
  ranges : List (Nat × Option Nat) := []

/-- How an instruction ended. -/
inductive Step where
  | goOn
  | goTo (position : Nat)
  | endCycle (printing : Bool)
  | again
  | endInput
  | stop (printing : Bool) (status : Nat)

/-- Runs a part of a script; a failure has a complaint. -/
abbrev RunM := StateT Work (Except (String × Work))

/-- Ends everything with a complaint. -/
def abort {α : Type} (text : String) : RunM α := do
  throw (text, ← get)

/-- Writes a line. -/
def say (text : List Char) (ended : Bool) : RunM Unit :=
  modify fun w => { w with output := w.output.say text ended }

/-- Writes the pattern space. -/
def sayLine : RunM Unit := do
  let w ← get
  say w.space w.ended

/-- Writes a text as it is. -/
def add (text : String) : RunM Unit :=
  modify fun w => { w with output := w.output.add text }

/-- Writes what was to stand behind the line. -/
def flush : RunM Unit := do
  let waiting := (← get).waiting
  modify fun w => { w with waiting := [] }
  waiting.forM add

/-- Lets a text wait until the line was written. -/
def await (text : String) : RunM Unit :=
  modify fun w => { w with waiting := w.waiting ++ [text] }

/-- Takes the next line; `place` puts it into the pattern space. The result is false when there is
none. -/
def takeLine (place : List Char → List Char → List Char) : RunM Bool := do
  match (← get).rest with
  | [] => return false
  | line :: rest =>
    flush
    modify fun w => { w with
      rest := rest
      space := place w.space line.text
      ended := line.ended
      number := w.number + 1
      changed := false }
    return true

/-! ### Addresses -/

/-- The expression to look for, which is then the one that was looked for last. -/
def currentRegex (regex : Option Regex) : RunM Regex := do
  match regex.or (← get).recent with
  | some regex =>
    modify fun w => { w with recent := some regex }
    return regex
  | none => abort "no previous regular expression"

/-- Whether an address is that of the current line. -/
def Address.holds (address : Address) : RunM Bool := do
  let w ← get
  match address with
  | line n => return w.number == n
  | last => return w.rest.isEmpty
  | found regex => return ((← currentRegex regex).find? (Regex.startOf w.space)).isSome
  | step first size => return first ≤ w.number && (w.number - first) % size == 0
  | further _ => return false
  | multiple _ => return false

/-- Where a range that starts at a line ends, when its end is a number. -/
def rangeEnd? (number : Nat) : Address → Option Nat
  | .line n => some n
  | .further n => some (number + n)
  | .multiple n => some (if n = 0 then number else number + n - number % n)
  | _ => none

/-- Opens a range. -/
def openRange (position : Nat) (stop : Option Nat) : RunM Unit :=
  modify fun w => { w with ranges := (position, stop) :: w.ranges }

/-- Closes a range. -/
def closeRange (position : Nat) : RunM Unit :=
  modify fun w => { w with ranges := w.ranges.filter (·.1 != position) }

/-- Whether the current line is in the range of an instruction. -/
def inRange (position : Nat) (first second : Address) : RunM Bool := do
  let w ← get
  match w.ranges.lookup position with
  | some (some stop) =>
    if stop ≤ w.number then closeRange position
    return w.number ≤ stop
  | some none =>
    if ← second.holds then closeRange position
    return true
  | none =>
    if !(← first.holds) then return false
    match rangeEnd? w.number second with
    | some stop => if w.number < stop then openRange position (some stop)
    | none => openRange position none
    return true

/-- Whether an instruction applies to the current line. -/
def Instruction.applies (i : Instruction) (position : Nat) : RunM Bool := do
  match i.first, i.second with
  | none, _ => return !i.negated
  | some first, none => return (← first.holds) != i.negated
  | some first, some second => return (← inRange position first second) != i.negated

/-- The ranges that are open before the first line: those that start before it. -/
def initialRanges (script : List Instruction) : List (Nat × Option Nat) :=
  script.zipIdx.filterMap fun (i, position) =>
    match i.first with
    | some (.line 0) => some (position, none)
    | _ => none

/-! ### Replacing -/

/-- Writes a character in a way. -/
def Letters.write (kind : Letters) (c : Char) : Char :=
  match kind with
  | same => c
  | upper => c.toUpper
  | lower => c.toLower

/-- The text of a replacement; `kind` tells how letters are written and `once` how the next one is,
if that is different. -/
def expand (found : Regex.Match) (groups : Regex.Groups) :
    List Replacement → Letters → Option Letters → List Char
  | [], _, _ => []
  | .letters kind :: parts, _, _ => expand found groups parts kind none
  | .letter once :: parts, kind, _ => expand found groups parts kind (some once)
  | .text c :: parts, kind, once =>
    (once.getD kind).write c :: expand found groups parts kind none
  | .group n :: parts, kind, once =>
    match if n = 0 then found.text else (groups.lookup n).getD [] with
    | [] => expand found groups parts kind once
    | c :: s =>
      (once.getD kind).write c :: s.map kind.write ++ expand found groups parts kind none

/-- Replaces what is found from a place on. `counted` tells how many occurrences were found,
`behind` where the last one ended, `rounds` bounds how many there are. The result is the text from
the place on, if anything was replaced. -/
def replaceFrom (regex : Regex) (s : Substitution) :
    Nat → Nat → Option Nat → Regex.Place → Option (List Char)
  | 0, _, _, _ => none
  | rounds + 1, counted, behind, place =>
    match regex.find? place with
    | none => none
    | some found =>
      let front := place.textTo found.start
      let isEmpty := found.start.index == found.stop.index
      let touches := isEmpty && behind == some found.start.index
      let counted := if touches then counted else counted + 1
      let here := !touches && s.occurrence ≤ counted
      let new := if here then expand found found.groups s.parts .same none else found.text
      if here && !s.all then some (front ++ new ++ found.stop.rest)
      else
        let (char, next) := if isEmpty then (found.stop.rest.take 1, found.stop.advance 1)
          else ([], found.stop)
        if isEmpty && found.stop.rest.isEmpty then if here then some (front ++ new) else none
        else
          let behind := if isEmpty then none else some found.stop.index
          match replaceFrom regex s rounds counted behind next with
          | some rest => some (front ++ new ++ char ++ rest)
          | none => if here then some (front ++ new ++ char ++ next.rest) else none

/-- Replaces what is found in the pattern space. -/
def substitute (s : Substitution) : RunM Unit := do
  let regex ← currentRegex s.regex
  let w ← get
  match replaceFrom regex s (w.space.length + 2) 0 none (Regex.startOf w.space) with
  | none => pure ()
  | some text =>
    set { w with space := text, changed := true }
    if s.shown then sayLine

/-! ### Instructions -/

/-- The position of a label; without a name it is the end of the script. -/
def labelPosition (script : Array Instruction) (name : String) : Nat :=
  let isLabel (i : Instruction) : Bool := match i.action with
    | .label other => other == name
    | _ => false
  if name.isEmpty then script.size else (script.findIdx? isLabel).getD script.size

/-- The position behind the block that a position opens; `depth` counts blocks inside of it. -/
def blockEnd : List Instruction → Nat → Nat → Nat
  | [], position, _ => position
  | i :: rest, position, depth =>
    match i.action with
    | .openBlock => blockEnd rest (position + 1) (depth + 1)
    | .closeBlock => if depth = 0 then position + 1 else blockEnd rest (position + 1) (depth - 1)
    | _ => blockEnd rest (position + 1) depth

/-- The first line of the pattern space, and whether others follow. -/
def firstLine (space : List Char) : List Char × Bool :=
  (space.takeWhile (· != '\n'), space.contains '\n')

/-- Runs one instruction that applies. -/
def Action.run (script : Array Instruction) (position : Nat) (action : Action) :
    RunM Step := do
  match action with
  | substitute s => do
    Edit.substitute s
    return .goOn
  | translate source target =>
    modify fun w => { w with space := w.space.map fun c => (target[source.idxOf c]?).getD c }
    return .goOn
  | delete => return .endCycle false
  | deleteFirst =>
    let (first, more) := firstLine (← get).space
    if !more then return .endCycle false
    modify fun w => { w with space := w.space.drop (first.length + 1) }
    return .again
  | print =>
    sayLine
    return .goOn
  | printFirst =>
    let w ← get
    let (first, more) := firstLine w.space
    say first (more || w.ended)
    return .goOn
  | number =>
    say (toString (← get).number).toList true
    return .goOn
  | append text =>
    await text
    return .goOn
  | insert text =>
    add text
    return .goOn
  | change text =>
    if !(← get).ranges.any (·.1 == position) then add text
    return .endCycle false
  | next =>
    let w ← get
    if w.rest.isEmpty then return .endInput
    if !w.quiet then sayLine
    let _ ← takeLine fun _ line => line
    return .goOn
  | nextAppended =>
    if ← takeLine fun space line => space ++ '\n' :: line then return .goOn
    return .endInput
  | keep appending =>
    modify fun w => { w with kept := if appending then w.kept ++ '\n' :: w.space else w.space }
    return .goOn
  | fetch appending =>
    modify fun w => { w with space := if appending then w.space ++ '\n' :: w.kept else w.kept }
    return .goOn
  | exchange =>
    modify fun w => { w with space := w.kept, kept := w.space }
    return .goOn
  | clear =>
    modify fun w => { w with space := [] }
    return .goOn
  | quit printing status => return .stop printing status
  | jump name condition =>
    let changed := (← get).changed
    let target := labelPosition script name
    match condition with
    | .always => return .goTo target
    | .changed =>
      modify fun w => { w with changed := false }
      return if changed then .goTo target else .goOn
    | .unchanged =>
      modify fun w => { w with changed := false }
      return if changed then .goOn else .goTo target
  | label _ => return .goOn
  | openBlock => return .goOn
  | closeBlock => return .goOn

/-- Runs a script on the line in the pattern space, from a position on; `rounds` bounds how many
instructions are run. -/
def runFrom (script : Array Instruction) : Nat → Nat → RunM Step
  | 0, _ => return .stop true 1
  | rounds + 1, position => do
    match script[position]? with
    | none => return .endCycle true
    | some i =>
      if ← i.applies position then
        match ← i.action.run script position with
        | .goOn => runFrom script rounds (position + 1)
        | .goTo target => runFrom script rounds target
        | step => return step
      else
        match i.action with
        | .openBlock =>
          let behind := script.toList.drop (position + 1)
          runFrom script rounds (blockEnd behind (position + 1) 0)
        | _ => runFrom script rounds (position + 1)

/-- How many instructions are run at most. -/
def maxSteps : Nat := 1000000000

/-- Writes the pattern space unless that is not wanted, and what was to stand behind it. -/
def finish (printing : Bool) : RunM Unit := do
  if printing && !(← get).quiet then sayLine
  flush

/-- Runs a script on all lines; `rounds` bounds how many cycles there are, and `fresh` tells whether
a cycle starts with the next line. Gives the status if the script ended everything. -/
def runCycles (script : Array Instruction) : Nat → Bool → RunM (Option Nat)
  | 0, _ => return none
  | rounds + 1, fresh => do
    if fresh then
      if !(← takeLine fun _ line => line) then return none
    match ← runFrom script maxSteps 0 with
    | .stop printing status =>
      if printing then finish true
      return some status
    | .endInput =>
      finish true
      return none
    | .endCycle printing =>
      finish printing
      runCycles script rounds true
    | .again =>
      flush
      runCycles script rounds false
    | _ =>
      finish true
      runCycles script rounds true

/-- What a script makes of lines. The status is missing if the script did not end everything, and
a complaint tells why it did. -/
structure Result where
  work : Work
  status : Option Nat
  complaint : Option String := none

/-- Runs a script on lines; `kept` is the text that is kept from earlier ones. -/
def run (script : List Instruction) (quiet : Bool) (kept : List Char)
    (lines : List Line) : Result :=
  let work : Work :=
    { rest := lines, quiet := quiet, kept := kept, ranges := initialRanges script }
  match (runCycles script.toArray maxSteps true).run work with
  | .ok (status, work) => ⟨work, status, none⟩
  | .error (complaint, work) => ⟨work, some 1, some complaint⟩

end UnityBuild.Shell.Edit
