import UnityBuild.Shell.Number
import UnityBuild.Shell.Utility.Basic

/-!
# Parts of lines

Lines are taken apart by columns or by fields between separators.
-/

namespace UnityBuild.Shell.Utility

/-- A range of numbers, which may have no end. -/
abbrev NumberRange := Nat × Option Nat

/-- Reads a range of a list. -/
def readRange (fields : Bool) (piece : List Char) : Except String NumberRange := do
  let fromOne := if fields then "fields are numbered from 1"
    else "byte/character positions are numbered from 1"
  let number (digits : List Char) : Except String Nat :=
    if !digits.all Char.isDigit then
      .error ((if fields then "invalid field value " else "invalid byte/character position ") ++
        quotedName (String.ofList digits))
    else if digitsValue 10 digits = 0 then .error fromOne
    else .ok (digitsValue 10 digits)
  match Text.cutAt '-' piece with
  | ([], none) => throw fromOne
  | (start, none) =>
    let n ← number start
    return (n, some n)
  | ([], some []) => throw "invalid range with no endpoint: -"
  | (start, some []) => return (← number start, none)
  | ([], some stop) => return (1, some (← number stop))
  | (start, some stop) =>
    let first ← number start
    let last ← number stop
    if last < first then throw "invalid decreasing range"
    return (first, some last)

/-- Reads a list of ranges between commas or blanks. -/
def readRanges (fields : Bool) (text : String) : Except String (List NumberRange) :=
  (Text.splitAt (fun c => c == ',' || c == ' ' || c == '\t') text.toList).mapM (readRange fields)

/-- Whether ranges hold a number. -/
def inAny (ranges : List NumberRange) (n : Nat) : Bool :=
  ranges.any fun (start, stop) => start ≤ n && stop.all fun last => n ≤ last

/-- Whether a range begins at a number that no range before it reaches. -/
def startsRange (ranges : List NumberRange) (n : Nat) : Bool :=
  ranges.any fun (start, _) => start == n

/-- What `cut` is asked for. -/
structure CutRequest where
  ranges : List NumberRange
  complement : Bool
  separator : Char
  joint : Option String
  onlySeparated : Bool
  last : Char

/-- Whether a column is asked for. -/
def CutRequest.wants (request : CutRequest) (n : Nat) : Bool :=
  inAny request.ranges n != request.complement

/-- The characters of a line that are asked for; between ranges stands what joins them. -/
def CutRequest.columns (request : CutRequest) : Nat → Bool → List Char → List Char
  | _, _, [] => []
  | n, wrote, c :: s =>
    if request.wants n then
      let starts := wrote && (startsRange request.ranges n || !request.wants (n - 1))
      let front := match request.joint, starts with
        | some joint, true => joint.toList
        | _, _ => []
      front ++ c :: request.columns (n + 1) true s
    else request.columns (n + 1) wrote s

/-- The fields of a line that are asked for. -/
def CutRequest.fields (request : CutRequest) (line : String) : Option String :=
  let fields := Text.splitAt (· == request.separator) line.toList
  if fields.length ≤ 1 then if request.onlySeparated then none else some line
  else
    let chosen := fields.zipIdx.filterMap fun (field, i) =>
      if request.wants (i + 1) then some field else none
    let joint := (request.joint.map String.toList).getD [request.separator]
    some (String.ofList (joint.intercalate chosen))

/-- The list that options of `cut` give, and whether it is one of fields. -/
def readCutList (options : List (Char × String)) : ShellM (Bool × String) := do
  match options.filter fun entry => ['b', 'c', 'f'].contains entry.1 with
  | [] => giveUpWithHelp "cut" "you must specify a list of bytes, characters, or fields" 1
  | [(letter, text)] => return (letter == 'f', text)
  | _ => giveUpWithHelp "cut" "only one list may be specified" 1

/-- Writes columns of lines. -/
def cut : Utility := fun _ arguments => do
  let words := [("delimiter", 'd'), ("fields", 'f'), ("characters", 'c'), ("bytes", 'b'),
    ("only-delimited", 's'), ("complement", 'C'), ("output-delimiter", 'o'),
    ("zero-terminated", 'z')]
  let (options, paths) ← match readAmong "d:f:c:b:snzCo:".toList words false
      (arguments.length + 1) arguments with
    | .ok result => pure result
    | .error problem => refuseOptions "cut" 1 problem
  match options.find? fun entry => entry.1 == 'd' && 1 < entry.2.length with
  | some _ => giveUpWithHelp "cut" "the delimiter must be a single character" 1
  | none => pure ()
  let (isFields, text) ← readCutList options
  if !isFields && given options 'd' then
    giveUpWithHelp "cut" "an input delimiter may be specified only when operating on fields" 1
  if !isFields && given options 's' then
    giveUpWithHelp "cut"
      "suppressing non-delimited lines makes sense\n\tonly when operating on fields" 1
  match readRanges isFields text with
  | .error problem => giveUpWithHelp "cut" problem 1
  | .ok ranges =>
    let request : CutRequest :=
      { ranges
        complement := given options 'C'
        separator := ((valueOf? options 'd').map fun text => text.toList.headD '\x00').getD '\t'
        joint := valueOf? options 'o'
        onlySeparated := given options 's'
        last := if given options 'z' then '\x00' else '\n' }
    forOperands "cut" paths fun _ content =>
      write (String.join ((piecesOf request.last content).filterMap fun line =>
        if isFields then (request.fields line).map (·.push request.last)
        else some (String.ofList (request.columns 1 false line.toList ++ [request.last]))))
where
  piecesOf (last : Char) (text : String) : List String :=
    let pieces := (Text.splitAt (· == last) text.toList).map String.ofList
    pieces.dropLast ++ pieces.getLast?.toList.filter (!·.isEmpty)

end UnityBuild.Shell.Utility
