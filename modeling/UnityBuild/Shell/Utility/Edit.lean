import UnityBuild.Shell.Edit.Run
import UnityBuild.Shell.Utility.Basic

/-!
# The line editor

`sed` runs an editing script on the lines of its files, and writes what the script makes of them or
puts it into the files.
-/

namespace UnityBuild.Shell.Utility

/-- A piece of a script: its text, and the file it comes from if it comes from one. -/
structure ScriptPiece where
  text : String
  file : Option String := none

/-- The piece of a script in which a character stands, its number among those that come from no
file, and how many characters of it stand before. -/
def pieceAt :
    List ScriptPiece → (number : Nat) → (position : Nat) → Option (ScriptPiece × Nat × Nat)
  | [], _, _ => none
  | piece :: pieces, number, position =>
    let number := if piece.file.isNone then number + 1 else number
    if position ≤ piece.text.length || pieces.isEmpty then some (piece, number, position)
    else pieceAt pieces number (position - piece.text.length - 1)

/-- A complaint about a place in a script. -/
def scriptComplaint (pieces : List ScriptPiece) (position : Nat) (known : Bool) (text : String) :
    String :=
  match pieceAt pieces 0 position with
  | none => text
  | some (piece, number, position) =>
    match piece.file with
    | some path =>
      let front := piece.text.toList.take position
      let line := if known then front.countP (· == '\n') + 1 else 0
      "file " ++ path ++ " line " ++ toString line ++ ": " ++ text
    | none =>
      "-e expression #" ++ toString number ++ ", char " ++
        toString (if known then position else 0) ++ ": " ++ text

/-- Reads the instructions of a script. -/
def readEditScript (extended : Bool) (pieces : List ScriptPiece) :
    ShellM (List Edit.Instruction) := do
  let chars := (String.intercalate "\n" (pieces.map (·.text))).toList
  match Edit.read extended chars with
  | .ok instructions => return instructions
  | .error (.found left text) =>
    giveUp "sed" (scriptComplaint pieces (chars.length - left) true text) 1
  | .error (.begun left text) =>
    giveUp "sed" (scriptComplaint pieces (chars.length - left) false text) 1
  | .error (.general text) => giveUp "sed" text 4

/-- The lines of a content for a script. -/
def editLines (content : String) : List Edit.Line :=
  (linesWithEnds content).map fun line =>
    let chars := line.toList
    let ended := chars.getLast? == some '\n'
    ⟨if ended then chars.dropLast else chars, ended⟩

/-- The content of an operand of `sed`. -/
def readEdited (path : String) : ShellM (Option String) := do
  match ← readOperand path with
  | .ok content => return some content
  | .error .isDirectory =>
    grumble "sed" ("couldn't edit " ++ path ++ ": not a regular file")
    return none
  | .error error =>
    grumble "sed" ("can't read " ++ path ++ ": " ++ error.text)
    return none

/-- Complains if a script failed. -/
def reportFailure (complaint : Option String) : ShellM Unit :=
  match complaint with
  | some text => grumble "sed" ("-e expression #1, char 0: " ++ text)
  | none => return ()

/-- What is asked of `sed`. -/
structure EditJob where
  script : List Edit.Instruction
  quiet : Bool

/-- Edits files in their places, one after the other, until the script ends everything. A backup
gets the name with an ending, or a name in which the file's own stands for a star. -/
def editInPlace (job : EditJob) (ending : String) :
    List String → (kept : List Char) → (status : Nat) → ShellM Nat
  | [], _, status => return status
  | path :: paths, kept, status => do
    match ← readEdited path with
    | none => editInPlace job ending paths kept (max status 4)
    | some content =>
      let result := Edit.run job.script job.quiet kept (editLines content)
      if !ending.isEmpty then
        let backup := if ending.toList.contains '*' then ending.replace "*" path else path ++ ending
        match (← get).files.writeBytes ⟨backup⟩ (Text.toBytes content) with
        | .ok files => modify fun s => { s with files := files }
        | .error error => giveUp "sed" ("cannot rename " ++ path ++ ": " ++ error.text) 4
      match (← get).files.writeBytes ⟨path⟩ (Text.toBytes result.work.output.text) with
      | .ok files => modify fun s => { s with files := files }
      | .error _ => pure ()
      reportFailure result.complaint
      match result.status with
      | some result => return max status result
      | none => editInPlace job ending paths result.work.kept status

/-- Edits several inputs, each with lines of its own. -/
def editEach (job : EditJob) :
    List (List Edit.Line) → (kept : List Char) → (status : Nat) → ShellM Nat
  | [], _, status => return status
  | lines :: inputs, kept, status => do
    let result := Edit.run job.script job.quiet kept lines
    write result.work.output.text
    reportFailure result.complaint
    match result.status with
    | some result => return max status result
    | none => editEach job inputs result.work.kept status

/-- The long options of `sed`. -/
def sedWords : List (String × Char) :=
  [("quiet", 'n'), ("silent", 'n'), ("expression", 'e'), ("regexp-extended", 'E'),
    ("in-place", 'i'), ("file", 'f'), ("separate", 's'),
    ("unbuffered", 'u'), ("null-data", 'z'), ("zero-terminated", 'z'), ("posix", 'p'),
    ("debug", 'd'), ("sandbox", 'b'), ("follow-symlinks", 'F')]

/-- The text of a script file, without the end of its last line. -/
def scriptText (content : String) : String :=
  if content.endsWith "\n" then String.ofList content.toList.dropLast else content

/-- Edits lines by a script. -/
def sed : Utility := fun _ arguments => do
  let (options, operands) ← readArguments "sed" 1 "ne:Erbi::f:suz" sedWords arguments
  let written ← (options.filter fun o => o.1 == 'e' || o.1 == 'f').mapM fun (letter, value) => do
    if letter == 'e' then return ScriptPiece.mk value none
    match ← readOperand value with
    | .ok content => return ⟨scriptText content, some value⟩
    | .error error => giveUp "sed" ("couldn't open file " ++ value ++ ": " ++ error.text) 1
  let (pieces, paths) ← match written, operands with
    | [], [] =>
      let _ ← say 2 ("Usage: sed [OPTION]... \x7bscript-only-if-no-other-script\x7d " ++
        "[input-file]...\n")
      throw (.exited 1)
    | [], script :: paths => pure ([ScriptPiece.mk script none], paths)
    | pieces, paths => pure (pieces, paths)
  let script ← readEditScript (given options 'E' || given options 'r') pieces
  let start := (pieces.head?.map (·.text)).getD ""
  let quiet := given options 'n' || start == "#n" || start.startsWith "#n\n"
  let job : EditJob := ⟨script, quiet⟩
  match valueOf? options 'i' with
  | some ending =>
    if paths.isEmpty then giveUp "sed" "no input files" 4
    editInPlace job ending paths [] 0
  | none =>
    let contents ← (if paths.isEmpty then ["-"] else paths).mapM fun path => do
      return (← readEdited path).map editLines
    let status := if contents.all Option.isSome then 0 else 2
    let inputs := contents.filterMap fun lines => lines
    editEach job (if given options 's' then inputs else [inputs.flatten]) [] status

end UnityBuild.Shell.Utility
