import UnityBuild.Shell.State

/-!
# Starting programs

A program is a file that may be run. Some files hold a program themselves; others name the program
that reads them in their first line, and this program may again be such a file. Only a few bytes of
a file are looked at to find that line.

Main definition: `Program.load`, the program that a path leads to and the arguments it gets.
-/

namespace UnityBuild.Shell.Program

/-- What the files of programs start with. -/
def mark : String := "\x7fELF\x02\x01\x01\x00\xff"

/-- The content of the file of a program. -/
def image (name : String) : ByteArray :=
  Text.toBytes (mark ++ name)

/-- How many bytes of a file are looked at. -/
def headSize : Nat := 256

/-- The program that a file holds, if it holds one of those that are known. -/
def ofImage? (programs : List String) (content : ByteArray) : Option String :=
  if headSize < content.size then none
  else
    let text := Text.ofBytes content
    programs.find? fun name => mark ++ name == text

/-- The bytes at the start of a file; behind its end there are zeros. -/
def headOf (content : ByteArray) : List Char :=
  let head := (Text.ofBytes (content.extract 0 headSize)).toList
  head ++ List.replicate (headSize - head.length) '\x00'

/-- Blanks in the first line. -/
def isBlank (c : Char) : Bool :=
  c == ' ' || c == '\t'

/-- Characters that end a word of the first line. -/
def endsName (c : Char) : Bool :=
  isBlank c || c == '\x00'

/-- Drops blanks from the end of a line. -/
def trimBack (line : List Char) : List Char :=
  (line.reverse.dropWhile isBlank).reverse

/-- The line that names an interpreter, without its blanks at the end. When no line ends within
the bytes that are looked at, a name must end there. -/
def headLine? (head : List Char) : Option (List Char) :=
  match head with
  | '#' :: '!' :: rest =>
    let line := rest.takeWhile fun c => c != '\n' && c != '\x00'
    if rest[line.length]? = some '\n' then some (trimBack line)
    else
      let name := rest.dropWhile isBlank
      if name.any endsName then some (trimBack rest.dropLast) else none
  | _ => none

/-- The interpreter that a file names, and its argument. -/
def interpreter? (content : ByteArray) : Option (String × List String) := do
  let line ← headLine? (headOf content)
  let line := line.dropWhile isBlank
  if line.isEmpty then none
  let name := line.takeWhile fun c => !endsName c
  let behind := line.drop name.length
  let argument := behind.dropWhile isBlank
  let arguments :=
    if behind.head?.any isBlank && !argument.isEmpty then
      [String.ofList (argument.takeWhile (· != '\x00'))]
    else []
  return (String.ofList name, arguments)

/-- The content of a file that may be run. A name without characters stands for the working
directory. -/
def openFile (files : FileSystem) (path : String) : Except SystemError ByteArray := do
  if path.isEmpty then throw .permissionDenied
  match ← files.entryAt ⟨path⟩ with
  | .file content rights =>
    if rights.isExecutable then return content else throw .permissionDenied
  | _ => throw .permissionDenied

/-- The longest text that a program can get, in bytes. -/
def maxTextSize : Nat := 131071

/-- How much space all texts for a program can take together. -/
def maxTotalSize : Nat := 2097152

/-- Refuses texts that take more space than there is: each takes its bytes, one more, and the
place that it is found by. -/
def checkSizes (texts : List String) : Except SystemError Unit :=
  let total := texts.foldl (fun size text => size + text.length + 9) 0
  if texts.any fun text => maxTextSize < text.length then .error .argumentsTooLong
  else if maxTotalSize < total then .error .argumentsTooLong
  else .ok ()

/-- A program that was found, and its arguments; the first is the name it was called by. -/
structure Loaded where
  program : String
  arguments : List String
deriving DecidableEq, Repr

/-- Follows interpreters; `levels` bounds how many stand behind each other. -/
def loadWithin (files : FileSystem) (programs : List String) :
    Nat → String → List String → Except SystemError Loaded
  | 0, path, _ => do
    let _ ← openFile files path
    throw .tooManyLevels
  | levels + 1, path, arguments => do
    let content ← openFile files path
    match ofImage? programs content with
    | some name => return ⟨name, arguments⟩
    | none =>
      match interpreter? content with
      | none => throw .notExecutableFormat
      | some (interpreter, leading) =>
        loadWithin files programs levels interpreter
          (interpreter :: leading ++ path :: arguments.drop 1)

/-- The program that a path leads to, and the arguments it gets. -/
def load (files : FileSystem) (programs : List String) (path : String)
    (arguments environment : List String) : Except SystemError Loaded := do
  checkSizes (path :: arguments ++ environment)
  loadWithin files programs 6 path arguments

/-- The directories in which programs are looked for. -/
def searchPath (s : Session) : List String :=
  match s.value? "PATH" with
  | some path => (Text.splitAt (· == ':') path.toList).map String.ofList
  | none => []

/-- Where programs are looked for when the search path is not to be trusted. -/
def standardDirectories : List String :=
  ["/usr/sbin", "/usr/bin", "/sbin", "/bin"]

/-- A name in a directory; the working directory need not be named. -/
def inDirectory (directory name : String) : String :=
  if directory.isEmpty then name else directory ++ "/" ++ name

/-- Finds a program in directories. Something of its name that is no program is told apart from
nothing at all. -/
def find (files : FileSystem) (directories : List String) (name : String) :
    Except SystemError String :=
  let candidates := directories.map fun directory => inDirectory directory name
  match candidates.find? fun path => files.isExecutable ⟨path⟩ with
  | some path => .ok path
  | none =>
    if candidates.any fun path => (files.entryAt ⟨path⟩).toBool then
      .error .permissionDenied
    else .error .noEntry

/-- The paths at which a command is tried one after the other, the first of them a program. One that
was found before is not looked for in earlier directories. -/
def candidates (directories : List String) (remembers : Bool) (name : String) :
    ShellM (Except SystemError (List String)) := do
  if name.toList.contains '/' then return .ok [name]
  let s ← get
  let paths := directories.map (inDirectory · name)
  match if remembers then s.session.found.lookup name else none with
  | some index => return .ok (paths.drop index)
  | none =>
    match find s.files directories name with
    | .error error => return .error error
    | .ok _ =>
      let index := paths.findIdx fun path => s.files.isExecutable ⟨path⟩
      if remembers then
        changeSession fun s => { s with found := s.found ++ [(name, index)] }
      return .ok (paths.drop index)

/-- The status of a command whose program was not started. -/
def failureStatus : SystemError → Nat
  | .noEntry => 127
  | .notDirectory => 127
  | .nameTooLong => 127
  | .tooManyLevels => 127
  | _ => 126

/-- How the shell tells why a program was not started. -/
def complaint : SystemError → String
  | .noEntry => "not found"
  | .notDirectory => "not found"
  | error => error.text

end UnityBuild.Shell.Program
