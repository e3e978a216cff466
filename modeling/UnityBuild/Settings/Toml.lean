import UnityBuild.Text.Reader

/-!
# The text format of settings files

A settings file is a TOML document with entries at its top level only. Entries hold texts,
switches or lists of texts; a document with anything else is refused. All four forms of strings
are read: on one line or over several, with escapes or taken literally.

Main definition: `Toml.parse?`.
-/

namespace UnityBuild.Toml

open Text (Reader hexNumber? escapedChar?)

/-- The value of an entry. -/
inductive Value where
  | text (value : String)
  | switch (value : Bool)
  | texts (values : List String)
deriving DecidableEq, Repr

/-- An entry of a document. -/
structure Item where
  key : String
  value : Value
deriving DecidableEq, Repr

/-- The characters that may stand between the parts of a line. -/
def isSpace (c : Char) : Bool :=
  c == ' ' || c == '\t'

/-- Drops the space at the front. -/
def skipSpace (s : List Char) : List Char :=
  s.dropWhile isSpace

/-- Characters that texts and comments may hold: all but the controls, and the tab. -/
def isTextChar (c : Char) : Bool :=
  c == '\t' || (0x20 ≤ c.toNat && c.toNat != 0x7F)

/-- The characters of a key without quotes. -/
def isBareKeyChar (c : Char) : Bool :=
  c.isAlphanum || c == '_' || c == '-'

/-- Takes a line end from the front. -/
def lineEnd? : List Char → Option (List Char)
  | '\n' :: s => some s
  | '\r' :: '\n' :: s => some s
  | _ => none

/-- The character that hexadecimal digits name, if there is one. -/
def hexChar? (digits : List Char) : Option Char := do
  let n ← hexNumber? digits
  if n.isValidChar then some (Char.ofNat n) else none

/-- Puts a character in front of what a reader found. -/
def consResult (c : Char) (result : Option (List Char × List Char)) :
    Option (List Char × List Char) :=
  result.map fun (body, rest) => (c :: body, rest)

/-- Reads a text on one line with escapes, up to its closing quote. -/
def readBasic? : Reader (List Char)
  | [] => none
  | ['\\'] => none
  | '"' :: s => some ([], s)
  | '\\' :: 'u' :: a :: b :: c :: d :: s =>
    match hexChar? [a, b, c, d] with
    | some char => consResult char (readBasic? s)
    | none => none
  | '\\' :: 'U' :: a :: b :: c :: d :: e :: f :: g :: h :: s =>
    match hexChar? [a, b, c, d, e, f, g, h] with
    | some char => consResult char (readBasic? s)
    | none => none
  | '\\' :: c :: s =>
    match escapedChar? c with
    | some char => consResult char (readBasic? s)
    | none => none
  | c :: s => if isTextChar c then consResult c (readBasic? s) else none

/-- Reads a literal text on one line, up to its closing quote. -/
def readLiteral? : Reader (List Char)
  | [] => none
  | '\'' :: s => some ([], s)
  | c :: s => if isTextChar c then consResult c (readLiteral? s) else none

/-- Reads a text over several lines with escapes. Up to two quotes may stand in front of the three
that close it. A backslash at the end of a line joins the next one, without the space in front of
it; `joining` tells whether such space is being dropped. -/
def readBasicLines? : Bool → Reader (List Char)
  | _, [] => none
  | _, ['\\'] => none
  | true, ' ' :: s => readBasicLines? true s
  | true, '\t' :: s => readBasicLines? true s
  | true, '\n' :: s => readBasicLines? true s
  | true, '\r' :: '\n' :: s => readBasicLines? true s
  | _, '"' :: '"' :: '"' :: '"' :: '"' :: s => some (['"', '"'], s)
  | _, '"' :: '"' :: '"' :: '"' :: s => some (['"'], s)
  | _, '"' :: '"' :: '"' :: s => some ([], s)
  | _, '"' :: s => consResult '"' (readBasicLines? false s)
  | _, '\r' :: '\n' :: s => consResult '\n' (readBasicLines? false s)
  | _, '\n' :: s => consResult '\n' (readBasicLines? false s)
  | _, '\\' :: 'u' :: a :: b :: c :: d :: s =>
    match hexChar? [a, b, c, d] with
    | some char => consResult char (readBasicLines? false s)
    | none => none
  | _, '\\' :: 'U' :: a :: b :: c :: d :: e :: f :: g :: h :: s =>
    match hexChar? [a, b, c, d, e, f, g, h] with
    | some char => consResult char (readBasicLines? false s)
    | none => none
  | _, '\\' :: c :: s =>
    match escapedChar? c with
    | some char => consResult char (readBasicLines? false s)
    | none =>
      if (lineEnd? (skipSpace (c :: s))).isSome then readBasicLines? true s else none
  | _, c :: s => if isTextChar c then consResult c (readBasicLines? false s) else none

/-- Reads a literal text over several lines. -/
def readLiteralLines? : Reader (List Char)
  | [] => none
  | '\'' :: '\'' :: '\'' :: '\'' :: '\'' :: s => some (['\'', '\''], s)
  | '\'' :: '\'' :: '\'' :: '\'' :: s => some (['\''], s)
  | '\'' :: '\'' :: '\'' :: s => some ([], s)
  | '\'' :: s => consResult '\'' (readLiteralLines? s)
  | '\r' :: '\n' :: s => consResult '\n' (readLiteralLines? s)
  | '\n' :: s => consResult '\n' (readLiteralLines? s)
  | c :: s => if isTextChar c then consResult c (readLiteralLines? s) else none

/-- Drops the line end that may follow the opening quotes of a text over several lines. -/
def dropFirstLineEnd (s : List Char) : List Char :=
  (lineEnd? s).getD s

/-- Reads a text in one of its four forms. -/
def readText? : Reader String := fun s =>
  (match s with
    | '"' :: '"' :: '"' :: s => readBasicLines? false (dropFirstLineEnd s)
    | '"' :: s => readBasic? s
    | '\'' :: '\'' :: '\'' :: s => readLiteralLines? (dropFirstLineEnd s)
    | '\'' :: s => readLiteral? s
    | _ => none).map fun (body, rest) => (String.ofList body, rest)

/-- Reads a key, bare or in quotes on one line. -/
def readKey? : Reader String := fun s =>
  match s with
  | '"' :: s => (readBasic? s).map fun (body, rest) => (String.ofList body, rest)
  | '\'' :: s => (readLiteral? s).map fun (body, rest) => (String.ofList body, rest)
  | s =>
    match s.takeWhile isBareKeyChar with
    | [] => none
    | key => some (String.ofList key, s.dropWhile isBareKeyChar)

/-- Drops space, line ends and comments between the items of a list; `inComment` tells whether a
comment is being read, which must end with its line. -/
def skipFiller? : Bool → List Char → Option (List Char)
  | false, [] => some []
  | true, [] => none
  | _, '\n' :: s => skipFiller? false s
  | _, '\r' :: '\n' :: s => skipFiller? false s
  | false, c :: s =>
    if isSpace c then skipFiller? false s
    else if c = '#' then skipFiller? true s
    else some (c :: s)
  | true, c :: s => if isTextChar c then skipFiller? true s else none

/-- Reads the items of a list up to its closing bracket. A comma may follow the last one; `fuel`
bounds how many there are. -/
def readTexts? : Nat → Reader (List String)
  | 0, _ => none
  | fuel + 1, s => do
    let s ← skipFiller? false s
    match s with
    | ']' :: s => return ([], s)
    | s =>
      let (first, s) ← readText? s
      let s ← skipFiller? false s
      match s with
      | ']' :: s => return ([first], s)
      | ',' :: s =>
        let (others, s) ← readTexts? fuel s
        return (first :: others, s)
      | _ => none

/-- Reads a value. -/
def readValue? : Reader Value := fun s =>
  match s with
  | 't' :: 'r' :: 'u' :: 'e' :: s => some (.switch true, s)
  | 'f' :: 'a' :: 'l' :: 's' :: 'e' :: s => some (.switch false, s)
  | '[' :: s => (readTexts? (s.length + 1) s).map fun (values, rest) => (.texts values, rest)
  | s => (readText? s).map fun (value, rest) => (.text value, rest)

/-- Reads the end of a line, or of the document, behind a comment if there is one. -/
def readLineRest? (s : List Char) : Option (List Char) :=
  let s := match skipSpace s with
    | '#' :: s => s.dropWhile isTextChar
    | s => s
  match s with
  | [] => some []
  | s => lineEnd? s

/-- Reads a line with an entry. -/
def readItem? : Reader Item := fun s => do
  let (key, s) ← readKey? s
  match skipSpace s with
  | '=' :: s =>
    let (value, s) ← readValue? (skipSpace s)
    let s ← readLineRest? s
    return (⟨key, value⟩, s)
  | _ => none

/-- Reads the lines of a document; `fuel` bounds how many there are. -/
def readItems? : Nat → List Char → Option (List Item)
  | 0, _ => none
  | fuel + 1, s =>
    match skipSpace s with
    | [] => some []
    | c :: rest =>
      if c = '#' ∨ c = '\n' ∨ c = '\r' then do
        let s ← readLineRest? (c :: rest)
        readItems? fuel s
      else do
        let (item, s) ← readItem? (c :: rest)
        let items ← readItems? fuel s
        return item :: items

/-- Drops the mark that a text may start with. -/
def dropByteOrderMark : List Char → List Char
  | '\uFEFF' :: s => s
  | s => s

/-- Reads a document; no key may stand twice. -/
def parse? (text : String) : Option (List Item) := do
  let s := dropByteOrderMark text.toList
  let items ← readItems? (s.length + 1) s
  if (items.map Item.key).Nodup then some items else none

end UnityBuild.Toml
