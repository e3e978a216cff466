import UnityBuild.Shell.Number
import UnityBuild.Shell.Regex.Read
import UnityBuild.Shell.Utility.Basic

/-!
# Utilities on lines

These utilities write the lines of texts: all of them, or those at their ends.
-/

namespace UnityBuild.Shell.Utility

/-! ### All lines -/

/-- Writes files one after the other. -/
def cat : Utility := fun _ arguments => do
  let (_, paths) ← readArguments "cat" 1 "u" [] arguments
  if (← fileOf? 1).isNone then giveUp "cat" "standard output: Bad file descriptor" 1
  (if paths.isEmpty then ["-"] else paths).foldlM (fun status path => do
    if (← outputSize? path).any (0 < ·) then
      grumble "cat" (shownName path ++ ": input file is output file")
      return 1
    match ← readOperand path with
    | .ok content =>
      write content
      return status
    | .error error =>
      grumble "cat" (shownName path ++ ": " ++ error.text)
      if path = "-" && error = .badDescriptor then
        grumble "cat" ("closing standard input: " ++ error.text)
      return 1) 0

/-! ### Lines at the ends -/

/-- How a unit behind a number multiplies it. -/
def unitFactor? : List Char → Option Nat
  | [] => some 1
  | ['b'] => some 512
  | ['k'] => some 1024
  | ['K'] => some 1024
  | ['m'] => some 1048576
  | ['M'] => some 1048576
  | ['G'] => some 1073741824
  | ['k', 'B'] => some 1000
  | ['K', 'B'] => some 1000
  | ['M', 'B'] => some 1000000
  | ['K', 'i', 'B'] => some 1024
  | ['M', 'i', 'B'] => some 1048576
  | _ => none

/-- A count that `head` or `tail` is asked for: a number with its sign. -/
def readCounted (name what text : String) : ShellM (Option Char × Nat) := do
  let (sign, rest) := match text.toList with
    | '-' :: rest => (some '-', rest)
    | '+' :: rest => (some '+', rest)
    | rest => (none, rest)
  let digits := rest.takeWhile Char.isDigit
  match digits.isEmpty, unitFactor? (rest.drop digits.length) with
  | false, some factor => return (sign, digitsValue 10 digits * factor)
  | _, _ => giveUp name ("invalid number of " ++ what ++ ": " ++ quotedName text) 1

/-- The old way to ask for a number of lines or bytes, in the first argument. -/
def expandCount (signs : List Char) : List String → List String
  | first :: others =>
    match first.toList with
    | sign :: rest =>
      let digits := rest.takeWhile Char.isDigit
      let letters := rest.drop digits.length
      if signs.contains sign && !digits.isEmpty && letters.all (["c", "l", "q", "v", "z", "b", "k",
          "m", "f"].flatMap String.toList).contains then
        let unit := letters.filter fun c => c == 'b' || c == 'k' || c == 'm'
        let option := if letters.contains 'c' || letters.contains 'b' then "-c" else "-n"
        let count := (if sign = '+' then "+" else "") ++ String.ofList (digits ++ unit)
        let flags := letters.filter fun c => c == 'q' || c == 'v' || c == 'z'
        [option ++ count] ++ (flags.map fun c => String.ofList ['-', c]) ++ others
      else first :: others
    | [] => first :: others
  | [] => []

/-- The title of a file when there are several. -/
def titleOf (first : Bool) (path : String) : String :=
  (if first then "" else "\n") ++ "==> " ++ (if path = "-" then "standard input" else path) ++
    " <==\n"

/-- Writes a part of every file, with titles when there are several. -/
def writeParts (name : String) (options : List (Char × String)) (paths : List String)
    (part : String → String) : ShellM Nat := do
  let titled := (1 < paths.length && !given options 'q') || given options 'v'
  let (status, _) ← (if paths.isEmpty then ["-"] else paths).foldlM (fun (status, first) path => do
    let shown := if path = "-" then "standard input" else path
    let title := if titled then titleOf first path else ""
    match ← readOperand path with
    | .ok content =>
      write (title ++ part content)
      return (status, false)
    | .error .isDirectory =>
      write title
      grumble name ("error reading " ++ quotedName shown ++ ": Is a directory")
      return (1, false)
    | .error .badDescriptor =>
      write title
      grumble name ("error reading " ++ quotedName shown ++ ": Bad file descriptor")
      if path = "-" then grumble name "-: Bad file descriptor"
      return (1, false)
    | .error error =>
      grumble name ("cannot open " ++ quotedName path ++ " for reading: " ++ error.text)
      return (1, first)) ((0 : Nat), true)
  return status

/-- Cuts a text into pieces that end in a character, each with its end if it has one. -/
def piecesWithEnds (last : Char) (text : String) : List String :=
  if last = '\n' then linesWithEnds text
  else
    let pieces := (Text.splitAt (· == last) text.toList).map String.ofList
    pieces.dropLast.map (·.push last) ++ pieces.getLast?.toList.filter (!·.isEmpty)

/-- What the last of the options `c` and `n` asks for. -/
def askedCount (options : List (Char × String)) : Char × String :=
  ((options.filter fun entry => entry.1 == 'c' || entry.1 == 'n').getLast?).getD ('n', "10")

/-- The options of `head` and `tail` by their words. -/
def endWords : List (String × Char) :=
  [("lines", 'n'), ("bytes", 'c'), ("quiet", 'q'), ("silent", 'q'), ("verbose", 'v'),
    ("zero-terminated", 'z'), ("follow", 'f'), ("retry", 'r'), ("pid", 'P'),
    ("sleep-interval", 's')]

/-- Writes the start of files. -/
def head : Utility := fun _ arguments => do
  let (options, paths) ← readArguments "head" 1 "n:c:qvz" endWords (expandCount ['-'] arguments)
  let last := if given options 'z' then '\x00' else '\n'
  let (letter, text) := askedCount options
  if letter = 'c' then
    let (sign, n) ← readCounted "head" "bytes" text
    writeParts "head" options paths fun content =>
      let chars := content.toList
      String.ofList (chars.take (if sign = some '-' then chars.length - n else n))
  else
    let (sign, n) ← readCounted "head" "lines" text
    writeParts "head" options paths fun content =>
      let lines := piecesWithEnds last content
      String.join (lines.take (if sign = some '-' then lines.length - n else n))

/-- Writes the end of files. -/
def tail : Utility := fun _ arguments => do
  let (options, paths) ← readArguments "tail" 1 "n:c:qvzfFs:" endWords
    (expandCount ['-', '+'] arguments)
  let last := if given options 'z' then '\x00' else '\n'
  let dropped (sign : Option Char) (n size : Nat) : Nat :=
    if sign = some '+' then n - 1 else size - n
  let (letter, text) := askedCount options
  if letter = 'c' then
    let (sign, n) ← readCounted "tail" "bytes" text
    writeParts "tail" options paths fun content =>
      let chars := content.toList
      String.ofList (chars.drop (dropped sign n chars.length))
  else
    let (sign, n) ← readCounted "tail" "lines" text
    writeParts "tail" options paths fun content =>
      let lines := piecesWithEnds last content
      String.join (lines.drop (dropped sign n lines.length))

/-! ### Copies -/

/-- Writes the input to the output and to files. -/
def tee : Utility := fun _ arguments => do
  let words := [("append", 'a'), ("ignore-interrupts", 'i'), ("output-error", 'p')]
  let (options, paths) ← readArguments "tee" 1 "aip" words arguments
  match ← readDescriptor 0 with
  | .error error => giveUp "tee" ("read error: " ++ error.text) 1
  | .ok bytes =>
    let written := bytes.isEmpty || (← emit 1 bytes)
    if !written then
      loseOutput
      let error := (← getSession).lost.getD .noSpace
      grumble "tee" ("'standard output': " ++ error.text)
      changeSession fun s => { s with lost := none }
    paths.foldlM (fun status path => do
      match ← writePath (given options 'a') path bytes with
      | .ok () => return status
      | .error error =>
        grumble "tee" (shownName path ++ ": " ++ error.text)
        return 1) (statusOf written)

end UnityBuild.Shell.Utility
