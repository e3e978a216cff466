import UnityBuild.Shell.Utility.Basic

/-!
# Lines in order

`sort` compares lines by keys: parts of the lines from one place to another, each compared in its
own way. Lines with equal keys are compared as a whole. `uniq` puts equal lines that follow each
other together.
-/

namespace UnityBuild.Shell.Utility

/-! ### Keys -/

/-- Which part of a line is compared, and how. Fields and characters are counted from zero. -/
structure SortKey where
  field : Nat := 0
  char : Nat := 0
  /-- The last field, and how many of its characters belong to the key; zero stands for all. -/
  stop : Option (Nat × Nat) := none
  /-- The letters that say how texts are compared. -/
  letters : List Char := []
  skipStart : Bool := false
  skipStop : Bool := false

/-- Whether a letter was given for a key. -/
def SortKey.has (key : SortKey) (letter : Char) : Bool :=
  key.letters.contains letter

/-- Whether a key says nothing about how it is compared, except the direction. -/
def SortKey.isDefault (key : SortKey) : Bool :=
  key.letters.all (· == 'r') && !key.skipStart && !key.skipStop

/-- Blanks between fields. -/
def isFieldBlank (c : Char) : Bool :=
  c == ' ' || c == '\t' || c == '\n'

/-- Drops a field from the front of a text; with a separator, the separator behind it is dropped
as well when that is asked for. -/
def dropField (separator : Option Char) (behind : Bool) (s : List Char) : List Char :=
  match separator with
  | some c =>
    let rest := s.dropWhile (· != c)
    if behind then rest.drop 1 else rest
  | none => (s.dropWhile isFieldBlank).dropWhile fun c => !isFieldBlank c

/-- Drops several fields. -/
def dropFields (separator : Option Char) (count : Nat) (s : List Char) : List Char :=
  (List.replicate count ()).foldl (fun s _ => dropField separator true s) s

/-- The rest of a line from the start of a key on. -/
def SortKey.startIn (key : SortKey) (separator : Option Char) (line : List Char) : List Char :=
  let s := dropFields separator key.field line
  (if key.skipStart then s.dropWhile isFieldBlank else s).drop key.char

/-- The rest of a line from the end of a key on. -/
def SortKey.stopIn (key : SortKey) (separator : Option Char) (line : List Char) : List Char :=
  match key.stop with
  | none => []
  | some (field, 0) => dropField separator false (dropFields separator field line)
  | some (field, count) =>
    let s := dropFields separator field line
    (if key.skipStop then s.dropWhile isFieldBlank else s).drop count

/-- The text of a key in a line. -/
def SortKey.textIn (key : SortKey) (separator : Option Char) (line : List Char) : List Char :=
  let start := key.startIn separator line
  start.take (start.length - (key.stopIn separator line).length)

/-! ### Comparing -/

/-- A number with a fraction, as digits: the fraction does not end in a zero. -/
structure Fixed where
  negative : Bool
  whole : Nat
  fraction : List Char

/-- Drops zeros at the end. -/
def dropZeros (digits : List Char) : List Char :=
  (digits.reverse.dropWhile (· == '0')).reverse

/-- The number at the start of a text. -/
def fixedOf (s : List Char) : Fixed :=
  let s := s.dropWhile isFieldBlank
  let (negative, s) := match s with
    | '-' :: s => (true, s)
    | s => (false, s)
  let whole := s.takeWhile Char.isDigit
  let s := s.drop whole.length
  let fraction := match s with
    | '.' :: s => dropZeros (s.takeWhile Char.isDigit)
    | _ => []
  let value := digitsValue 10 whole
  ⟨negative && (value != 0 || !fraction.isEmpty), value, fraction⟩

/-- Compares numbers without their signs. -/
def Fixed.compareSize (a b : Fixed) : Ordering :=
  (compare a.whole b.whole).then (compare a.fraction b.fraction)

/-- Compares numbers. -/
def Fixed.order (a b : Fixed) : Ordering :=
  match a.negative, b.negative with
  | false, false => a.compareSize b
  | true, true => b.compareSize a
  | true, false => .lt
  | false, true => .gt

/-- Compares the texts of a key. -/
def SortKey.order (key : SortKey) (a b : List Char) : Ordering :=
  let order :=
    if key.has 'n' then (fixedOf a).order (fixedOf b)
    else if key.has 'f' then compare (a.map Char.toUpper) (b.map Char.toUpper)
    else compare a b
  if key.has 'r' then order.swap else order

/-- How lines are compared. -/
structure SortRules where
  keys : List SortKey
  separator : Option Char
  reverse : Bool
  stable : Bool
  unique : Bool

/-- Compares lines by their keys; without keys they are compared as they are. -/
def SortRules.orderByKeys (rules : SortRules) (a b : List Char) : Ordering :=
  rules.keys.foldl (fun order key =>
    order.then (key.order (key.textIn rules.separator a) (key.textIn rules.separator b))) .eq

/-- Compares lines. -/
def SortRules.order (rules : SortRules) (a b : List Char) : Ordering :=
  let whole := if rules.reverse then compare b a else compare a b
  if rules.keys.isEmpty then whole
  else if rules.stable || rules.unique then rules.orderByKeys a b
  else (rules.orderByKeys a b).then whole

/-- Puts lines in order; of equal ones only the first stays when lines are to be unique. -/
def SortRules.sort (rules : SortRules) (lines : List (List Char)) : List (List Char) :=
  let sorted := lines.mergeSort fun a b => rules.order a b != .gt
  if rules.unique then
    (sorted.foldl (fun kept line =>
      match kept with
      | last :: _ => if rules.order last line == .eq then kept else line :: kept
      | [] => [line]) []).reverse
  else sorted

/-! ### Reading keys -/

/-- The letters that say how keys are compared. -/
def sortLetters : List Char := "bfnr".toList

/-- Reads a number at the start of a text. -/
def readFieldNumber (complaint : String) (s : List Char) : Except String (Nat × List Char) :=
  let digits := s.takeWhile Char.isDigit
  if digits.isEmpty then
    .error (complaint ++ ": invalid count at start of '" ++ String.ofList s ++ "'")
  else .ok (digitsValue 10 digits, s.drop digits.length)

/-- Reads the start or the end of a key: the field, the character if there is one, and letters. -/
def readKeyPlace (spec complaint : String) (isStart : Bool) (s : List Char) :
    Except String (Nat × Option Nat × List Char × List Char) := do
  let wrong (text : String) : Except String Unit :=
    .error (text ++ ": invalid field specification '" ++ spec ++ "'")
  let (field, s) ← readFieldNumber complaint s
  if field = 0 then wrong "field number is zero"
  let (char, s) ← match s with
    | '.' :: s =>
      let (char, s) ← readFieldNumber "invalid number after '.'" s
      if isStart && char = 0 then wrong "character offset is zero"
      pure (some char, s)
    | s => pure (none, s)
  let letters := s.takeWhile fun c => sortLetters.contains c
  return (field, char, letters, s.drop letters.length)

/-- Reads a key. -/
def readSortKey (spec : String) : Except String SortKey := do
  let (field, char, letters, s) ← readKeyPlace spec "invalid number at field start" true spec.toList
  let (stop, more, s) ← match s with
    | ',' :: s =>
      let (field, char, letters, s) ← readKeyPlace spec "invalid number after ','" false s
      pure (some (field - 1, char.getD 0), letters, s)
    | s => pure (none, [], s)
  if !s.isEmpty then
    throw ("stray character in field spec: invalid field specification '" ++ spec ++ "'")
  return {
    field := field - 1
    char := (char.getD 1) - 1
    stop := stop
    letters := (letters ++ more).filter (· != 'b')
    skipStart := letters.contains 'b'
    skipStop := more.contains 'b' }

/-- The keys that options ask for. Keys that say nothing about how they are compared are compared
as the options outside of keys say. -/
def sortKeys (options : List (Char × String)) (keys : List SortKey) : List SortKey :=
  let letters := (options.map (·.1)).filter sortLetters.contains
  let blank := letters.contains 'b'
  let general : SortKey :=
    { letters := letters.filter (· != 'b'), skipStart := blank, skipStop := blank }
  if keys.isEmpty then if general.isDefault then [] else [general]
  else keys.map fun key =>
    if key.isDefault && !key.has 'r' then
      { key with letters := general.letters, skipStart := blank, skipStop := blank }
    else key

/-- The long options of `sort`. -/
def sortWords : List (String × Char) :=
  [("ignore-leading-blanks", 'b'), ("ignore-case", 'f'), ("numeric-sort", 'n'), ("reverse", 'r'),
    ("key", 'k'), ("stable", 's'), ("field-separator", 't'), ("unique", 'u')]

/-- The separator of fields. -/
def readSeparator (options : List (Char × String)) : ShellM (Option Char) := do
  match valueOf? options 't' with
  | none => return none
  | some text =>
    match text.toList with
    | [] => giveUp "sort" "empty tab" 2
    | [c] => return some c
    | ['\\', '0'] => return some '\x00'
    | _ => giveUp "sort" ("multi-character tab '" ++ text ++ "'") 2

/-- The lines of all operands. -/
def readSorted (paths : List String) : ShellM (List (List Char)) := do
  let pieces ← (if paths.isEmpty then ["-"] else paths).mapM fun path => do
    match ← readOperand path with
    | .ok content => return (linesOf content).map String.toList
    | .error .isDirectory => giveUp "sort" ("read failed: " ++ shownName path ++ ": Is a directory") 2
    | .error error => giveUp "sort" ("cannot read: " ++ shownName path ++ ": " ++ error.text) 2
  return pieces.flatten

/-- Writes lines in order. -/
def sort : Utility := fun _ arguments => do
  let (options, paths) ← readArguments "sort" 2 "bfnrk:st:u" sortWords arguments
  let written ← (options.filter (·.1 == 'k')).mapM fun (_, spec) =>
    match readSortKey spec with
    | .ok key => pure key
    | .error problem => giveUp "sort" problem 2
  let separator ← readSeparator options
  let keys := sortKeys options written
  let rules : SortRules :=
    ⟨keys, separator, given options 'r', given options 's', given options 'u'⟩
  let lines ← readSorted paths
  write (String.join ((rules.sort lines).map fun line => String.ofList line ++ "\n"))
  return 0

/-! ### Equal lines -/

/-- Puts equal lines that follow each other together. -/
def groupLines (same : String → String → Bool) (lines : List String) : List (List String) :=
  (lines.foldl (fun groups line =>
    match groups with
    | group :: rest =>
      if group.getLast?.any (same · line) then (line :: group) :: rest else [line] :: groups
    | [] => [[line]]) []).reverse.map List.reverse

/-- The long options of `uniq`. -/
def uniqWords : List (String × Char) :=
  [("count", 'c'), ("repeated", 'd'), ("unique", 'u'), ("ignore-case", 'i')]

/-- Writes lines that follow each other once. -/
def uniq : Utility := fun _ arguments => do
  let (options, paths) ← readArguments "uniq" 1 "cdui" uniqWords arguments
  match paths.drop 1 with
  | extra :: _ => refuseOperand "uniq" extra
  | [] => pure ()
  match ← readOperand (paths.headD "-") with
  | .error error => giveUp "uniq" (shownName (paths.headD "-") ++ ": " ++ error.text) 1
  | .ok content =>
    let compared (line : String) : List Char :=
      if given options 'i' then line.toList.map Char.toUpper else line.toList
    let groups := groupLines (fun a b => compared a == compared b) (linesOf content)
    let groups := groups.filter fun group =>
      (!given options 'd' || 1 < group.length) && (!given options 'u' || group.length == 1)
    write (String.join (groups.map fun group =>
      (if given options 'c' then padLeft 7 (toString group.length) ++ " " else "") ++
        group.headD "" ++ "\n"))
    return 0

end UnityBuild.Shell.Utility
