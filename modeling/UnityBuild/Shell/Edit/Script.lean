import UnityBuild.Shell.Regex.Read

/-!
# Editing scripts

A script that edits lines is a list of instructions; some apply only to lines of certain numbers or
with certain texts. An instruction is a letter with what belongs to it, and a block of instructions
stands in braces.
-/

namespace UnityBuild.Shell.Edit

/-- Which lines an instruction applies to. -/
inductive Address where
  | line (number : Nat)
  | last
  /-- Lines in which an expression is found; without one it is the expression that was looked for
  last. -/
  | found (regex : Option Regex)
  /-- Every so many lines from a line on. -/
  | step (first step : Nat)
  /-- Behind a first address: a number of further lines. -/
  | further (count : Nat)
  /-- Behind a first address: up to a line whose number is a multiple. -/
  | multiple (factor : Nat)

/-- How letters are written. -/
inductive Letters where
  | same
  | upper
  | lower
deriving DecidableEq, Repr

/-- A part of what a text is replaced by. -/
inductive Replacement where
  | text (c : Char)
  | group (number : Nat)
  /-- How the letters that follow are written. -/
  | letters (kind : Letters)
  /-- How the next letter is written. -/
  | letter (kind : Letters)
deriving DecidableEq, Repr

/-- A replacement of what is found. -/
structure Substitution where
  regex : Option Regex
  parts : List Replacement
  /-- The number of the first occurrence that is replaced. -/
  occurrence : Nat := 1
  /-- All occurrences from there on are replaced. -/
  all : Bool := false
  /-- Changed lines are written. -/
  shown : Bool := false

/-- When a jump is made. -/
inductive Jump where
  | always
  | changed
  | unchanged
deriving DecidableEq, Repr

/-- What an instruction does. -/
inductive Action where
  | substitute (substitution : Substitution)
  | translate (source target : List Char)
  | delete
  | deleteFirst
  | print
  | printFirst
  | number
  | append (text : String)
  | insert (text : String)
  | change (text : String)
  | next
  | nextAppended
  | keep (appending : Bool)
  | fetch (appending : Bool)
  | exchange
  | clear
  | quit (printing : Bool) (status : Nat)
  | jump (label : String) (condition : Jump)
  | label (name : String)
  | openBlock
  | closeBlock

/-- An instruction. -/
structure Instruction where
  first : Option Address := none
  second : Option Address := none
  negated : Bool := false
  action : Action

/-! ### Reading -/

/-- Why a script cannot be read. -/
inductive Problem where
  /-- Something is wrong when so many characters are left. -/
  | found (left : Nat) (text : String)
  /-- Something that was begun when so many characters were left is not ended. -/
  | begun (left : Nat) (text : String)
  /-- Something is wrong that has no place. -/
  | general (text : String)
deriving DecidableEq, Repr

/-- Reads a part of a script. -/
abbrev ReadM := StateT (List Char) (Except Problem)

/-- Something is wrong at this place. -/
def refuse {α : Type} (text : String) : ReadM α := do
  throw (.found (← get).length text)

/-- Blanks in a line. -/
def isLineBlank (c : Char) : Bool :=
  c == ' ' || c == '\t'

/-- Drops characters as long as a condition holds. -/
def skip (test : Char → Bool) : ReadM Unit :=
  modify fun s => s.dropWhile test

/-- Takes characters as long as a condition holds. -/
def takeAll (test : Char → Bool) : ReadM (List Char) := do
  let s ← get
  set (s.dropWhile test)
  return s.takeWhile test

/-- Takes the next character if there is one. -/
def takeNext? : ReadM (Option Char) := do
  match ← get with
  | c :: s =>
    set s
    return some c
  | [] => return none

/-- Takes the next character if it is the one that is asked for. -/
def takeChar (c : Char) : ReadM Bool := do
  match ← get with
  | d :: s =>
    if d = c then
      set s
      return true
    else return false
  | [] => return false

/-- Takes a number; nothing counts as zero. -/
def takeNumber : ReadM Nat := do
  return digitsValue 10 (← takeAll Char.isDigit)

/-- Goes to the end of an instruction. -/
def takeEnd : ReadM Unit := do
  skip isLineBlank
  match ← get with
  | [] => pure ()
  | c :: s =>
    if c == ';' || c == '\n' then set s
    else if c != '\x7d' && c != '#' then
      set s
      refuse "extra characters after command"

/-! ### Texts between delimiters -/

/-- The front of brackets in an expression: what stands before the first bracket that can close
them. -/
def bracketFront (s : List Char) : List Char :=
  match s with
  | '^' :: ']' :: _ => ['^', ']']
  | '^' :: _ => ['^']
  | ']' :: _ => [']']
  | _ => []

/-- Reads brackets behind the first one, up to the one that closes them; `named` is the sign of a
name that stands in them. -/
def readInBrackets (problem : String) : Nat → Option Char → List Char → ReadM (List Char)
  | 0, _, _ => refuse problem
  | rounds + 1, named, front => do
    match ← get, named with
    | [], _ => refuse problem
    | '\n' :: _, _ => refuse problem
    | c :: ']' :: s, some sign =>
      if c = sign then
        set s
        readInBrackets problem rounds none (']' :: c :: front)
      else
        set (']' :: s)
        readInBrackets problem rounds named (c :: front)
    | c :: s, some _ =>
      set s
      readInBrackets problem rounds named (c :: front)
    | ']' :: s, none =>
      set s
      return (']' :: front).reverse
    | '[' :: c :: s, none =>
      if c == ':' || c == '.' || c == '=' then
        set s
        readInBrackets problem rounds (some c) (c :: '[' :: front)
      else
        set (c :: s)
        readInBrackets problem rounds none ('[' :: front)
    | c :: s, none =>
      set s
      readInBrackets problem rounds none (c :: front)

/-- Reads up to a delimiter that no backslash protects. In an expression, the delimiter stands for
itself in brackets. `rounds` bounds how many characters there are. -/
def readDelimited (delimiter : Char) (expression : Bool) (problem : String) :
    Nat → List Char → ReadM (List Char)
  | 0, _ => refuse problem
  | rounds + 1, front => do
    match ← get with
    | [] => refuse problem
    | '\n' :: _ => refuse problem
    | c :: s =>
      set s
      if c = delimiter then return front.reverse
      else if c = '\\' then
        match ← takeNext? with
        | none => refuse problem
        | some d =>
          let plain := d == '\n' || (d == delimiter && (expression || d != '&'))
          readDelimited delimiter expression problem rounds
            (if expression && d == 'n' then '\n' :: front
              else if plain then d :: front else d :: '\\' :: front)
      else if expression && c = '[' then
        let start := bracketFront s
        set (s.drop start.length)
        let inside ← readInBrackets problem (s.length + 1) none (start.reverse ++ ['['])
        readDelimited delimiter expression problem rounds (inside.reverse ++ front)
      else readDelimited delimiter expression problem rounds (c :: front)

/-- Reads a text up to a delimiter. -/
def readText (delimiter : Char) (expression : Bool) (problem : String) : ReadM (List Char) := do
  readDelimited delimiter expression problem ((← get).length + 1) []

/-- A character that is written as a number behind a letter, and the rest behind it. -/
def numbered? (base digits : Nat) (s : List Char) : Option (Char × List Char) :=
  let written := (s.take digits).takeWhile (isDigitIn base)
  if written.isEmpty then none
  else some (Char.ofNat (digitsValue base written % 256), s.drop written.length)

/-- The character that an escape behind a backslash stands for, and the rest behind it. -/
def escaped? : List Char → Option (Char × List Char)
  | 'a' :: s => some ('\x07', s)
  | 'f' :: s => some ('\x0c', s)
  | 'n' :: s => some ('\n', s)
  | 'r' :: s => some ('\r', s)
  | 't' :: s => some ('\t', s)
  | 'v' :: s => some ('\x0b', s)
  | 'c' :: c :: s => some (Char.ofNat (c.toUpper.toNat ^^^ 64), s)
  | 'd' :: s => numbered? 10 3 s
  | 'o' :: s => numbered? 8 3 s
  | 'x' :: s => numbered? 16 2 s
  | _ => none

/-- Replaces escapes in an expression; `rounds` bounds how many characters there are. -/
def unescapeRegex : Nat → List Char → List Char
  | 0, s => s
  | _, [] => []
  | rounds + 1, '\\' :: c :: s =>
    match escaped? (c :: s) with
    | some (d, rest) => d :: unescapeRegex rounds rest
    | none => '\\' :: c :: unescapeRegex rounds s
  | rounds + 1, c :: s => c :: unescapeRegex rounds s

/-- The expression that a text writes, with the number of its groups; an empty text is the one that
was looked for last. -/
def regexOf (extended ignoreCase everyLine : Bool) (text : List Char) :
    ReadM (Option Regex × Nat) := do
  if text.isEmpty then
    if ignoreCase || everyLine then refuse "cannot specify modifiers on empty regexp"
    return (none, 9)
  let form : Regex.Form :=
    { extended := extended, ignoreCase := ignoreCase, singleCounts := !extended,
      everyLine := everyLine }
  match Regex.read form (unescapeRegex (text.length + 1) text) with
  | .ok reading => return (some reading.regex, reading.groups)
  | .error problem =>
    if problem = Regex.bareClass then throw (.general problem) else refuse problem

/-! ### Addresses -/

/-- Reads the signs behind an expression in an address: whether small and capital letters are the
same, and whether all lines count; `rounds` bounds how many there are. -/
def readModifiers : Nat → Bool → Bool → ReadM (Bool × Bool)
  | 0, ignoreCase, everyLine => return (ignoreCase, everyLine)
  | rounds + 1, ignoreCase, everyLine => do
    let s := (← get).dropWhile isLineBlank
    match s with
    | 'I' :: s =>
      set s
      readModifiers rounds true everyLine
    | 'M' :: s =>
      set s
      readModifiers rounds ignoreCase true
    | _ => return (ignoreCase, everyLine)

/-- Reads an expression in an address behind its delimiter. -/
def readFound (extended : Bool) (delimiter : Char) : ReadM (Option Address) := do
  let text ← readText delimiter true "unterminated address regex"
  let (ignoreCase, everyLine) ← readModifiers ((← get).length + 1) false false
  let (regex, _) ← regexOf extended ignoreCase everyLine text
  return some (.found regex)

/-- Reads an address, if there is one. -/
def readAddress (extended : Bool) : ReadM (Option Address) := do
  match ← get with
  | '$' :: s =>
    set s
    return some .last
  | '/' :: s =>
    set s
    readFound extended '/'
  | '\\' :: c :: s =>
    set s
    readFound extended c
  | '+' :: s =>
    set (s.dropWhile isLineBlank)
    return some (.further (← takeNumber))
  | '~' :: s =>
    set (s.dropWhile isLineBlank)
    return some (.multiple (← takeNumber))
  | c :: _ =>
    if !c.isDigit then return none
    let first ← takeNumber
    match (← get).dropWhile isLineBlank with
    | '~' :: s =>
      set (s.dropWhile isLineBlank)
      let step ← takeNumber
      return some (if step = 0 then .line first else .step first step)
    | _ => return some (.line first)
  | [] => return none

/-! ### Instructions -/

/-- The parts of a replacement; `rounds` bounds how many there are. -/
def replacementOf : Nat → List Char → List Replacement
  | 0, _ => []
  | _, [] => []
  | rounds + 1, '&' :: s => .group 0 :: replacementOf rounds s
  | rounds + 1, '\\' :: c :: s =>
    if c.isDigit then .group (c.toNat - '0'.toNat) :: replacementOf rounds s
    else
      match c with
      | 'U' => .letters .upper :: replacementOf rounds s
      | 'L' => .letters .lower :: replacementOf rounds s
      | 'E' => .letters .same :: replacementOf rounds s
      | 'u' => .letter .upper :: replacementOf rounds s
      | 'l' => .letter .lower :: replacementOf rounds s
      | _ =>
        match escaped? (c :: s) with
        | some (d, rest) => .text d :: replacementOf rounds rest
        | none => .text c :: replacementOf rounds s
  | rounds + 1, c :: s => .text c :: replacementOf rounds s

/-- The largest group that a replacement asks for. -/
def largestGroup (parts : List Replacement) : Nat :=
  parts.foldl (fun n part => match part with
    | .group number => max n number
    | _ => n) 0

/-- What the flags of a substitution say besides what the substitution keeps itself. -/
structure Flags where
  substitution : Substitution
  counted : Bool := false
  ignoreCase : Bool := false
  everyLine : Bool := false

/-- Reads the flags of a substitution; `rounds` bounds how many there are. -/
def readFlags : Nat → Flags → ReadM Flags
  | 0, flags => return flags
  | rounds + 1, flags => do
    match ← get with
    | [] => return flags
    | '\x7d' :: _ => return flags
    | '#' :: _ => return flags
    | c :: s =>
      set s
      if c == ';' || c == '\n' then return flags
      else if isLineBlank c then readFlags rounds flags
      else if c == 'i' || c == 'I' then readFlags rounds { flags with ignoreCase := true }
      else if c == 'm' || c == 'M' then readFlags rounds { flags with everyLine := true }
      else if c == 'p' then
        if flags.substitution.shown then refuse "multiple \x60p' options to \x60s' command"
        readFlags rounds { flags with substitution.shown := true }
      else if c == 'g' then
        if flags.substitution.all then refuse "multiple \x60g' options to \x60s' command"
        readFlags rounds { flags with substitution.all := true }
      else if c.isDigit then
        if flags.counted then refuse "multiple number options to \x60s' command"
        set (c :: s)
        let number ← takeNumber
        if number = 0 then refuse "number option to \x60s' command may not be zero"
        readFlags rounds { flags with substitution.occurrence := number, counted := true }
      else refuse "unknown option to \x60s'"

/-- Reads a substitution behind its letter. -/
def readSubstitution (extended : Bool) : ReadM Action := do
  let problem := "unterminated \x60s' command"
  match ← takeNext? with
  | none => refuse problem
  | some delimiter =>
    let text ← readText delimiter true problem
    let new ← readText delimiter false problem
    let parts := replacementOf (new.length + 1) new
    let start : Flags := { substitution := ⟨none, parts, 1, false, false⟩ }
    let flags ← readFlags ((← get).length + 1) start
    let (regex, groups) ← regexOf extended flags.ignoreCase flags.everyLine text
    if groups < largestGroup parts then
      refuse ("invalid reference \\" ++ toString (largestGroup parts) ++
        " on \x60s' command's RHS")
    return .substitute { flags.substitution with regex := regex }

/-- The characters of a list in which a backslash protects the next one. -/
def unprotect : List Char → List Char
  | '\\' :: 'n' :: s => '\n' :: unprotect s
  | '\\' :: c :: s => c :: unprotect s
  | c :: s => c :: unprotect s
  | [] => []

/-- Reads a translation of characters behind its letter. -/
def readTranslation : ReadM Action := do
  let problem := "unterminated \x60y' command"
  match ← takeNext? with
  | none => refuse problem
  | some delimiter =>
    let source := unprotect (← readText delimiter false problem)
    let target := unprotect (← readText delimiter false problem)
    if source.length != target.length then
      refuse "strings for \x60y' command are different lengths"
    takeEnd
    return .translate source target

/-- The lines that an instruction adds, with escapes replaced, and the rest of the script;
`rounds` bounds how many characters there are. -/
def addedLines : Nat → List Char → List Char × List Char
  | 0, s => ([], s)
  | _, [] => (['\n'], [])
  | _, '\n' :: s => (['\n'], s)
  | _, ['\\'] => (['\n'], [])
  | rounds + 1, '\\' :: c :: s =>
    let (d, rest) := (escaped? (c :: s)).getD (c, s)
    let (text, rest) := addedLines rounds rest
    (d :: text, rest)
  | rounds + 1, c :: s =>
    let (text, rest) := addedLines rounds s
    (c :: text, rest)

/-- Reads the lines that an instruction adds. -/
def readAdded : ReadM String := do
  skip isLineBlank
  let lines (s : List Char) : ReadM String := do
    let (text, rest) := addedLines (s.length + 1) s
    set rest
    return String.ofList text
  match ← get with
  | [] => refuse "expected \\ after \x60a', \x60c' or \x60i'"
  | ['\\'] =>
    set ([] : List Char)
    return ""
  | '\\' :: '\n' :: s => lines s
  | '\\' :: '\\' :: c :: s =>
    let (text, rest) := addedLines (s.length + 1) s
    set rest
    return String.ofList (c :: text)
  | '\\' :: c :: s =>
    let (text, rest) := addedLines (s.length + 1) s
    set rest
    return String.ofList (c :: text)
  | s => lines s

/-- Reads the name of a place in the script. -/
def readLabel : ReadM String := do
  skip isLineBlank
  let name ← takeAll fun c => !isNumberBlank c && c != ';' && c != '\x7d'
  return String.ofList name

/-- Reads an instruction that has nothing behind its letter. -/
def readPlain (action : Action) : ReadM Action := do
  takeEnd
  return action

/-- Reads a number that may stand behind an instruction. -/
def readOperand? : ReadM (Option Nat) := do
  skip isLineBlank
  let digits ← takeAll Char.isDigit
  takeEnd
  return if digits.isEmpty then none else some (digitsValue 10 digits)

/-- Reads what an instruction does behind its letter; `addresses` tells how many addresses it
has. -/
def readAction (extended : Bool) (addresses : Nat) (letter : Char) : ReadM Action := do
  match letter with
  | 's' => readSubstitution extended
  | 'y' => readTranslation
  | 'd' => readPlain .delete
  | 'D' => readPlain .deleteFirst
  | 'p' => readPlain .print
  | 'P' => readPlain .printFirst
  | '=' => readPlain .number
  | 'a' => return .append (← readAdded)
  | 'i' => return .insert (← readAdded)
  | 'c' => return .change (← readAdded)
  | 'n' => readPlain .next
  | 'N' => readPlain .nextAppended
  | 'h' => readPlain (.keep false)
  | 'H' => readPlain (.keep true)
  | 'g' => readPlain (.fetch false)
  | 'G' => readPlain (.fetch true)
  | 'x' => readPlain .exchange
  | 'z' => readPlain .clear
  | 'q' =>
    if addresses = 2 then refuse "command only uses one address"
    return .quit true ((← readOperand?).getD 0)
  | 'Q' =>
    if addresses = 2 then refuse "command only uses one address"
    return .quit false ((← readOperand?).getD 0)
  | 'b' => return .jump (← readLabel) .always
  | 't' => return .jump (← readLabel) .changed
  | 'T' => return .jump (← readLabel) .unchanged
  | ':' =>
    if 0 < addresses then refuse ": doesn't want any addresses"
    let name ← readLabel
    if name.isEmpty then refuse "\":\" lacks a label"
    return .label name
  | '\x7b' => return .openBlock
  | '\x7d' =>
    if 0 < addresses then refuse "\x60\x7d' doesn't want any addresses"
    readPlain .closeBlock
  | c => refuse ("unknown command: \x60" ++ String.ofList [c] ++ "'")

/-- Reads the second address of an instruction, if it has one. -/
def readSecond (extended : Bool) (first : Option Address) : ReadM (Option Address) := do
  skip isLineBlank
  if first.isNone || !(← takeChar ',') then return none
  skip isLineBlank
  match ← readAddress extended with
  | some second => return some second
  | none =>
    let _ ← takeNext?
    refuse "unexpected \x60,'"

/-- Checks a first address against a second one. -/
def checkFirst (first second : Option Address) : ReadM Unit := do
  match first, second with
  | some (.line 0), some (.found _) => pure ()
  | some (.line 0), _ =>
    let _ ← takeNext?
    refuse "invalid usage of line address 0"
  | some (.further _), _ => refuse "invalid usage of +N or ~N as first address"
  | some (.multiple _), _ => refuse "invalid usage of +N or ~N as first address"
  | _, _ => pure ()

/-- Reads an instruction. The result is missing for a comment. `opened` tells whether a block is
open. -/
def readInstruction (extended opened : Bool) : ReadM (Option Instruction) := do
  let first ← readAddress extended
  let second ← readSecond extended first
  skip isLineBlank
  checkFirst first second
  let negated ← takeChar '!'
  if negated then
    skip isLineBlank
    if ← takeChar '!' then refuse "multiple \x60!'s"
  match ← takeNext? with
  | none => refuse "missing command"
  | some '#' =>
    if first.isSome then refuse "comments don't accept any addresses"
    skip (· != '\n')
    return none
  | some letter =>
    if letter == '\x7d' && !opened then refuse "unexpected \x60\x7d'"
    let addresses := first.toList.length + second.toList.length
    return some ⟨first, second, negated, ← readAction extended addresses letter⟩

/-- Reads the instructions of a script; `blocks` are the places where blocks were opened, and
`rounds` bounds how many instructions there are. -/
def readInstructions (extended : Bool) :
    Nat → List Nat → List Instruction → ReadM (List Instruction)
  | 0, _, front => return front.reverse
  | rounds + 1, blocks, front => do
    skip fun c => isNumberBlank c || c == ';'
    let left := (← get).length
    if left = 0 then
      match blocks with
      | [] => return front.reverse
      | place :: _ => throw (.begun place "unmatched \x60\x7b'")
    match ← readInstruction extended !blocks.isEmpty with
    | none => readInstructions extended rounds blocks front
    | some instruction =>
      let blocks := match instruction.action with
        | .openBlock => left :: blocks
        | .closeBlock => blocks.drop 1
        | _ => blocks
      readInstructions extended rounds blocks (instruction :: front)

/-- Whether a script has a place of a name. -/
def hasLabel (script : List Instruction) (name : String) : Bool :=
  script.any fun instruction => match instruction.action with
    | .label other => other == name
    | _ => false

/-- The name of the first jump whose aim is not in the script. -/
def missingLabel? (script : List Instruction) : Option String :=
  script.findSome? fun instruction => match instruction.action with
    | .jump name _ => if name.isEmpty || hasLabel script name then none else some name
    | _ => none

/-- The instructions of a script. -/
def read (extended : Bool) (script : List Char) : Except Problem (List Instruction) := do
  let (instructions, _) ← (readInstructions extended (script.length + 1) [] []).run script
  match missingLabel? instructions with
  | some name => throw (.general ("can't find label for jump to \x60" ++ name ++ "'"))
  | none => return instructions

end UnityBuild.Shell.Edit
