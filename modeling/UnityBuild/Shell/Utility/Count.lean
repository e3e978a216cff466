import UnityBuild.Shell.Utility.Basic

/-!
# Counting

`wc` counts lines, words and bytes. Its columns are as wide as the size of all files needs, or wide
enough for most texts when that is not known before.
-/

namespace UnityBuild.Shell.Utility

/-- Blanks between words. -/
def isWordBlank (c : Char) : Bool :=
  c == ' ' || ('\t' ≤ c && c ≤ '\r')

/-- How many lines, words, characters and bytes a text has. -/
def measure (text : String) : List Nat :=
  let chars := text.toList
  [chars.countP (· == '\n'),
    ((Text.splitAt isWordBlank chars).filter fun word => !word.isEmpty).length, chars.length,
    chars.length]

/-- The size of a regular file, by which columns are made wide enough; nothing when it is not
known. -/
def knownSize? (path : String) : ShellM (Option Nat) := do
  let s ← get
  let entry? := if path = "-" then
      match s.session.descriptors.lookup 0 with
      | some number =>
        match s.opened[number]?.map OpenFile.channel with
        | some (.file place) => s.files.get? place
        | _ => none
      | none => none
    else (s.files.entryAt ⟨path⟩).toOption
  return match entry? with
    | some (.file content _) => some content.size
    | _ => none

/-- How wide the columns of `wc` are. -/
def countWidth (columns : Nat) (paths : List String) : ShellM Nat := do
  let files := (← get).files
  let there := paths.filter fun path => path = "-" || (files.entryAt ⟨path⟩).toBool
  if columns ≤ 1 && paths.length ≤ 1 then return 1
  let sizes ← there.mapM knownSize?
  let total := (sizes.filterMap fun size => size).foldl (· + ·) 0
  let width := (toString total).length
  return if sizes.any Option.isNone then max 7 width else width

/-- Counts lines, words and bytes. -/
def wc : Utility := fun _ arguments => do
  let words := [("lines", 'l'), ("words", 'w'), ("bytes", 'c'), ("chars", 'm')]
  let (options, paths) ← readArguments "wc" 1 "lwcm" words arguments
  let wanted := ['l', 'w', 'm', 'c'].map (given options)
  let wanted := if wanted.all (!·) then [true, true, false, true] else wanted
  let choose (counts : List Nat) : List Nat :=
    (counts.zip wanted).filterMap fun (n, wanted) => if wanted then some n else none
  let operands := if paths.isEmpty then ["-"] else paths
  let columns := (wanted.filter fun wanted => wanted).length
  let width ← countWidth columns operands
  let row (counts : List Nat) (name : String) : String :=
    String.intercalate " " ((choose counts).map fun n => padLeft width (toString n)) ++ name ++ "\n"
  let none := [0, 0, 0, 0]
  let (total, status) ← operands.foldlM (fun (total, status) path => do
    let name := if paths.isEmpty then "" else " " ++ shownPlain path
    match ← readOperand path with
    | .ok content =>
      write (row (measure content) name)
      return (total.zipWith (· + ·) (measure content), status)
    | .error error =>
      let shown := if path = "-" then "'standard input'" else shownName path
      grumble "wc" (shown ++ ": " ++ error.text)
      if error = .isDirectory || path = "-" then write (row none name)
      if path = "-" && error = .badDescriptor then grumble "wc" "-: Bad file descriptor"
      return (total, 1)) (none, (0 : Nat))
  if 1 < operands.length then write (row total " total")
  return status
where
  shownPlain (path : String) : String :=
    if path.toList.contains '\n' then quotedName path else path

end UnityBuild.Shell.Utility
