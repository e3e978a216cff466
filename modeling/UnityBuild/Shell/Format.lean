import UnityBuild.Shell.Real

/-!
# Formatted output

`printf` writes a format in which escapes name bytes and directives take arguments. While arguments
are left over, the format is used again; a directive without an argument gets an empty one. A
number that is no number is complained about and counts as far as it could be read.

Main definitions: `printf` and `echoText`.
-/

namespace UnityBuild.Shell

/-- Whether a character is an octal digit. -/
def isOctal (c : Char) : Bool :=
  '0' ≤ c && c ≤ '7'

/-- The character of an escape by one letter. -/
def escapedChar? (c : Char) : Option Char :=
  match c with
  | 'a' => some '\x07'
  | 'b' => some '\x08'
  | 'e' => some '\x1b'
  | 'f' => some '\x0c'
  | 'n' => some '\n'
  | 'r' => some '\r'
  | 't' => some '\t'
  | 'v' => some '\x0b'
  | '\\' => some '\\'
  | _ => none

/-- Reads what follows a backslash: the character, and what is left. A backslash that starts no
escape stands for itself. -/
def readEscape (s : List Char) : Char × List Char :=
  match (s.take 3).takeWhile isOctal with
  | [] =>
    match s with
    | [] => ('\\', [])
    | c :: rest =>
      match escapedChar? c with
      | some char => (char, rest)
      | none => ('\\', s)
  | digits => (Char.ofNat (digitsValue 8 digits % 256), s.drop digits.length)

/-- The text in which the escapes of an argument are replaced, and whether it asks for an end of
all output; `front` is what was replaced before, the last character first. -/
def unescapeFrom : Nat → List Char → List Char → List Char × Bool
  | 0, front, _ => (front.reverse, false)
  | _ + 1, front, [] => (front.reverse, false)
  | _ + 1, front, '\\' :: 'c' :: _ => (front.reverse, true)
  | fuel + 1, front, '\\' :: '0' :: d :: s =>
    let (char, rest) := readEscape (if isOctal d then d :: s else '0' :: d :: s)
    unescapeFrom fuel (char :: front) rest
  | fuel + 1, front, '\\' :: s =>
    let (char, rest) := readEscape s
    unescapeFrom fuel (char :: front) rest
  | fuel + 1, front, c :: s => unescapeFrom fuel (c :: front) s

/-- The text in which the escapes of an argument are replaced, and whether it asks for an end of
all output. -/
def unescape (text : String) : String × Bool :=
  let (chars, stops) := unescapeFrom (text.length + 1) [] text.toList
  (String.ofList chars, stops)

/-- The text that arguments of `echo` ask for: blanks between them, and a line end unless one asks
for an end of all output. -/
def echoArguments (lineEnd : String) : String → List String → String
  | front, [] => front ++ lineEnd
  | front, argument :: arguments =>
    let (text, stops) := unescape argument
    if stops then front ++ text
    else echoArguments lineEnd (front ++ text ++ if arguments.isEmpty then "" else " ") arguments

/-- The text that `echo` writes. -/
def echoText : List String → String
  | "-n" :: arguments => echoArguments "" "" arguments
  | arguments => echoArguments "\n" "" arguments

/-- How a directive is to be written. -/
structure Layout where
  flags : List Char
  width : Nat
  precision : Option Nat

namespace Layout

/-- Whether a flag is given. -/
def has (l : Layout) (flag : Char) : Bool :=
  l.flags.contains flag

/-- Fills a text with blanks up to the width. -/
def fill (l : Layout) (text : List Char) : String :=
  let gap := List.replicate (l.width - text.length) ' '
  String.ofList (if l.has '-' then text ++ gap else gap ++ text)

/-- Fills a number up to the width; `zeros` tells whether zeros may do it. -/
def fillNumber (l : Layout) (sign digits : List Char) (zeros : Bool) : String :=
  if zeros && l.has '0' && !l.has '-' then
    let gap := List.replicate (l.width - sign.length - digits.length) '0'
    l.fill (sign ++ gap ++ digits)
  else l.fill (sign ++ digits)

/-- The sign of a number. -/
def sign (l : Layout) (negative : Bool) : List Char :=
  if negative then ['-'] else if l.has '+' then ['+'] else if l.has ' ' then [' '] else []

/-- The digits of a whole number, with zeros up to the precision. -/
def wholeDigits (l : Layout) (base n : Nat) : List Char :=
  match l.precision with
  | some 0 => if n = 0 then [] else Nat.toDigits base n
  | some precision => Real64.padZeros precision (Nat.toDigits base n)
  | none => Nat.toDigits base n

/-- A number with its sign. -/
def signed (l : Layout) (n : Int) : String :=
  l.fillNumber (l.sign (n < 0)) (l.wholeDigits 10 n.natAbs) l.precision.isNone

/-- A number without a sign, in the base of a directive. -/
def unsigned (l : Layout) (directive : Char) (n : Nat) : String :=
  let base := if directive = 'o' then 8 else if directive = 'u' then 10 else 16
  let digits := l.wholeDigits base n
  let digits := if directive = 'X' then digits.map Char.toUpper else digits
  let mark := if l.has '#' ∧ n ≠ 0 ∧ base = 16 then ['0', directive] else []
  let digits :=
    if l.has '#' && base == 8 && digits.head? != some '0' then '0' :: digits else digits
  l.fillNumber mark digits l.precision.isNone

/-- A real number. -/
def real (l : Layout) (directive : Char) (x : Real64) : String :=
  let digits := Real64.digits directive (l.precision.getD 6) (l.has '#') x.magnitude
  let finite := match x.magnitude with
    | .finite _ _ => true
    | _ => false
  l.fillNumber (l.sign x.negative) digits finite

/-- A text, cut at the precision. -/
def text (l : Layout) (s : String) : String :=
  match l.precision with
  | some n => l.fill (s.toList.take n)
  | none => l.fill s.toList

end Layout

/-- What a format has written: the arguments that are left, the output, complaints about numbers,
and whether an argument ended all output. -/
structure Printing where
  arguments : List String
  output : String := ""
  complaints : List String := []
  stopped : Bool := false

/-- Writes a part of a format, or gives up with a complaint. -/
abbrev PrintingM := ExceptT String (StateM Printing)

/-- Adds to the output. -/
def put (text : String) : PrintingM Unit :=
  modify fun p => { p with output := p.output ++ text }

/-- Takes the next argument. -/
def nextArgument? : PrintingM (Option String) := do
  match (← get).arguments with
  | [] => return none
  | argument :: rest =>
    modify fun p => { p with arguments := rest }
    return some argument

/-- Complains about an argument. -/
def objectTo (argument problem : String) : PrintingM Unit :=
  modify fun p => { p with complaints := p.complaints ++ [argument ++ ": " ++ problem] }

/-- Complains about an argument of which something was left over. -/
def objectToRest (argument : String) (rest : List Char) (numberFound : Bool) : PrintingM Unit :=
  if rest.isEmpty then return ()
  else objectTo argument
    (if numberFound then "not completely converted" else "expected numeric value")

/-- The code of a character that an argument quotes. -/
def quotedCode? (argument : String) : Option Nat :=
  match argument.toList with
  | quote :: rest =>
    if quote = '"' ∨ quote = '\'' then some ((rest.head?.map Char.toNat).getD 0) else none
  | [] => none

/-- Takes an argument as a number. -/
def nextInteger (signed : Bool) : PrintingM Int := do
  match ← nextArgument? with
  | none => return 0
  | some argument =>
    match quotedCode? argument with
    | some code => return code
    | none =>
      match readInteger? true argument.toList with
      | none =>
        objectToRest argument argument.toList false
        return 0
      | some (n, rest) =>
        objectToRest argument rest true
        let high : Int := if signed then maxInteger else 18446744073709551615
        let low : Int := if signed then minInteger else -18446744073709551615
        if n < low || high < n then
          if rest.isEmpty then objectTo argument "Numerical result out of range"
          return if n < 0 && signed then low else high
        return n

/-- Takes an argument as a real number. -/
def nextReal : PrintingM Real64 := do
  match ← nextArgument? with
  | none => return .ofFloat 0
  | some argument =>
    match quotedCode? argument with
    | some code => return .ofFloat (floatOf code 0)
    | none =>
      match readReal? argument.toList with
      | none =>
        objectToRest argument argument.toList false
        return .ofFloat 0
      | some (x, rest) =>
        objectToRest argument rest true
        return x

/-- Reads a width or a precision; a star takes it from the arguments. -/
def readSize (s : List Char) : PrintingM (Int × List Char) := do
  match s with
  | '*' :: s => return (← nextInteger true, s)
  | s =>
    let digits := s.takeWhile Char.isDigit
    return ((digitsValue 10 digits : Int), s.drop digits.length)

/-- Reads a precision. -/
def readPrecision (s : List Char) : PrintingM (Option Nat × List Char) := do
  match s with
  | '.' :: s =>
    let (n, s) ← readSize s
    return (if n < 0 then none else some n.toNat, s)
  | s => return (none, s)

/-- Writes an argument under a directive. -/
def putDirective (source : String) (l : Layout) (directive : Char) : PrintingM Unit := do
  if directive = 's' then put (l.text ((← nextArgument?).getD ""))
  else if directive = 'b' then
    let (text, stops) := unescape ((← nextArgument?).getD "")
    put (l.text text)
    if stops then modify fun p => { p with stopped := true }
  else if directive = 'c' then
    let char := (((← nextArgument?).getD "").toList.head?).getD '\x00'
    put ({ l with precision := none }.text (String.ofList [char]))
  else if directive = 'd' ∨ directive = 'i' then put (l.signed (← nextInteger true))
  else if "ouxX".toList.contains directive then
    put (l.unsigned directive ((← nextInteger false) % 18446744073709551616).toNat)
  else if "eEfFgG".toList.contains directive then put (l.real directive (← nextReal))
  else throw (source ++ ": invalid directive")

/-- Writes a format once; `fuel` bounds its length. -/
def putFormat : Nat → List Char → PrintingM Unit
  | 0, _ => return ()
  | _ + 1, [] => return ()
  | fuel + 1, '\\' :: s => do
    let (char, rest) := readEscape s
    put (String.ofList [char])
    putFormat fuel rest
  | fuel + 1, '%' :: '%' :: s => do
    put "%"
    putFormat fuel s
  | fuel + 1, '%' :: s => do
    let flags := s.takeWhile fun c => "#-+ 0".toList.contains c
    let (width, rest) ← readSize (s.drop flags.length)
    let (precision, rest) ← readPrecision rest
    match rest with
    | [] => throw "missing format character"
    | directive :: rest =>
      let flags := if width < 0 then '-' :: flags else flags
      let source := String.ofList ('%' :: s.take (s.length - rest.length))
      putDirective source ⟨flags, width.natAbs, precision⟩ directive
      if !(← get).stopped then putFormat fuel rest
  | fuel + 1, c :: s => do
    put (String.ofList [c])
    putFormat fuel s

/-- Writes a format as often as the arguments need; `rounds` bounds how often. -/
def putFormats (format : List Char) : Nat → PrintingM Unit
  | 0 => return ()
  | rounds + 1 => do
    let before := (← get).arguments.length
    putFormat (format.length + 1) format
    let after := (← get).arguments.length
    if after != before && after != 0 && !(← get).stopped then putFormats format rounds

/-- What `printf` writes, and why it gave up if it did. -/
def printf (format : String) (arguments : List String) : Option String × Printing :=
  match (putFormats format.toList (arguments.length + 1)).run.run { arguments := arguments } with
  | (.ok _, printing) => (none, printing)
  | (.error problem, printing) => (some problem, printing)

end UnityBuild.Shell
