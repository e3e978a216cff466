import UnityBuild.Json.Value
import UnityBuild.Text.Reader

/-!
# Reading JSON

Reading is strict: no comments, no trailing commas, no unescaped controls in strings, and no
escape for half of a surrogate pair. Lists and objects nest up to a fixed depth.

`readMembers?` reads what stands between two brackets and is shared by all readers of lists and
objects. `skipValue?` passes over a value without looking at it more closely than its form
needs, at any depth: it goes from token to token and remembers which brackets are open.
-/

namespace UnityBuild.Json

open Text (Reader mapReader after? hexNumber?)

/-- The characters that may stand between tokens. -/
def isSpace (c : Char) : Bool :=
  c == ' ' || c == '\n' || c == '\t' || c == '\r'

/-- Drops the space in front of a token. -/
def skipSpace (s : List Char) : List Char :=
  s.dropWhile isSpace

/-- The character of an escape by one letter; a slash may be escaped, too. -/
def escapedChar? (c : Char) : Option Char :=
  if c = '/' then some c else Text.escapedChar? c

/-- The first half of a surrogate pair. -/
def isHighSurrogate (unit : Nat) : Bool :=
  0xD800 ≤ unit && unit ≤ 0xDBFF

/-- The second half of a surrogate pair. -/
def isLowSurrogate (unit : Nat) : Bool :=
  0xDC00 ≤ unit && unit ≤ 0xDFFF

/-- The character of a surrogate pair. -/
def pairedChar (high low : Nat) : Char :=
  Char.ofNat (0x10000 + (high - 0xD800) * 0x400 + (low - 0xDC00))

/-- Reads the inside of a string up to its closing quote; `front` is what was read before, the
last character first. -/
def readStringFrom? (front : List Char) : Reader (List Char)
  | [] => none
  | ['\\'] => none
  | '"' :: s => some (front.reverse, s)
  | '\\' :: 'u' :: a :: b :: c :: d :: '\\' :: 'u' :: e :: f :: g :: h :: s =>
    match hexNumber? [a, b, c, d] with
    | none => none
    | some unit =>
      if isLowSurrogate unit then none
      else if isHighSurrogate unit then
        match hexNumber? [e, f, g, h] with
        | none => none
        | some low =>
          if isLowSurrogate low then readStringFrom? (pairedChar unit low :: front) s else none
      else readStringFrom? (Char.ofNat unit :: front) ('\\' :: 'u' :: e :: f :: g :: h :: s)
  | '\\' :: 'u' :: a :: b :: c :: d :: s =>
    match hexNumber? [a, b, c, d] with
    | none => none
    | some unit =>
      if isLowSurrogate unit || isHighSurrogate unit then none
      else readStringFrom? (Char.ofNat unit :: front) s
  | '\\' :: c :: s =>
    match escapedChar? c with
    | none => none
    | some char => readStringFrom? (char :: front) s
  | c :: s => if c.toNat < 0x20 then none else readStringFrom? (c :: front) s

/-- Reads the inside of a string up to its closing quote. -/
def readStringBody? : Reader (List Char) :=
  readStringFrom? []

/-- Passes over the inside of a string; an escape is checked for its form alone. -/
def skipStringBody? : List Char → Option (List Char)
  | [] => none
  | ['\\'] => none
  | '"' :: s => some s
  | '\\' :: 'u' :: a :: b :: c :: d :: s =>
    if (hexNumber? [a, b, c, d]).isSome then skipStringBody? s else none
  | '\\' :: c :: s => if (escapedChar? c).isSome then skipStringBody? s else none
  | c :: s => if c.toNat < 0x20 then none else skipStringBody? s

/-- Reads a string. -/
def readString? : Reader String := fun s =>
  match skipSpace s with
  | '"' :: s => (readStringBody? s).map fun (body, rest) => (String.ofList body, rest)
  | _ => none

/-- Reads the further members up to the closing bracket, each behind a comma. `bound` is a text
that has at least as many characters as there are members, and `front` holds the members read
before, the last one first. -/
def readMore? {α : Type} (close : Char) (member : Reader α) :
    (bound : List Char) → (front : List α) → Reader (List α)
  | [], _, _ => none
  | _ :: bound, front, s =>
    match skipSpace s with
    | [] => none
    | c :: s =>
      if c = close then some (front.reverse, s)
      else if c = ',' then
        match member s with
        | none => none
        | some (next, s) => readMore? close member bound (next :: front) s
      else none

/-- Reads the members behind an opening bracket up to the closing one. -/
def readMembers? {α : Type} (close : Char) (member : Reader α) : Reader (List α) := fun s =>
  match skipSpace s with
  | [] => none
  | c :: rest =>
    if c = close then some ([], rest)
    else
      match member (c :: rest) with
      | none => none
      | some (first, s) => readMore? close member s [first] s

/-- Reads the colon between the name and the value of a field. -/
def readColon? (s : List Char) : Option (List Char) :=
  match skipSpace s with
  | ':' :: s => some s
  | _ => none

/-- Reads a field whose value depends on its name. -/
def readField? {α : Type} (value : String → Reader α) : Reader α := fun s => do
  let (name, s) ← readString? s
  let s ← readColon? s
  value name s

/-- Reads a number. -/
def readNumber? : Reader Number := fun s => do
  let (literal, rest) ← Literal.read? s
  let value ← literal.value?
  return (value, rest)

/-- Reads a value that is neither a list nor an object; no space may stand in front. -/
def readScalar? : Reader Value := fun s =>
  match s with
  | 'n' :: s => (after? ['u', 'l', 'l'] s).map fun rest => (.null, rest)
  | 't' :: s => (after? ['r', 'u', 'e'] s).map fun rest => (.bool true, rest)
  | 'f' :: s => (after? ['a', 'l', 's', 'e'] s).map fun rest => (.bool false, rest)
  | '"' :: s => (readStringBody? s).map fun (body, rest) => (.string (String.ofList body), rest)
  | s => (readNumber? s).map fun (value, rest) => (.number value, rest)

/-- Reads a value in which lists and objects nest at most `depth` deep. -/
def readValue? : Nat → Reader Value
  | 0 => fun s =>
    match skipSpace s with
    | '[' :: _ => none
    | '{' :: _ => none
    | s => readScalar? s
  | depth + 1 => fun s =>
    match skipSpace s with
    | '[' :: s =>
      (readMembers? ']' (readValue? depth) s).map fun (items, rest) => (.array items, rest)
    | '{' :: s =>
      (readMembers? '}' (readField? fun name s =>
        (readValue? depth s).map fun (value, rest) => ((name, value), rest)) s).map
        fun (fields, rest) => (.object fields, rest)
    | s => readScalar? s

/-- How deep lists and objects may nest. -/
def maxDepth : Nat := 127

/-- Reads a text that holds one value and nothing else. -/
def readDocument? (s : List Char) : Option Value :=
  match readValue? maxDepth s with
  | some (value, rest) => if (skipSpace rest).isEmpty then some value else none
  | none => none

/-- A reader without a result. -/
def unitReader (skip : List Char → Option (List Char)) : Reader Unit := fun s =>
  (skip s).map fun rest => ((), rest)

/-- Passes over a value that is neither a list nor an object. -/
def skipScalar? (s : List Char) : Option (List Char) :=
  match s with
  | 'n' :: s => after? ['u', 'l', 'l'] s
  | 't' :: s => after? ['r', 'u', 'e'] s
  | 'f' :: s => after? ['a', 'l', 's', 'e'] s
  | '"' :: s => skipStringBody? s
  | s => (Literal.read? s).map Prod.snd

/-- Passes over the name of a field and the colon behind it. -/
def skipName? (s : List Char) : Option (List Char) :=
  match skipSpace s with
  | '"' :: s => (skipStringBody? s).bind readColon?
  | _ => none

/-- What may come next in a value that is passed over: a value, or what separates values. -/
inductive Expected where
  | value
  | separator
deriving DecidableEq, Repr

/-- Passes over the rest of a value. `closers` holds the closing brackets that are missing, the
innermost first, and `bound` is a text that has at least as many characters as tokens are left. -/
def skipRest? : (bound : List Char) → Expected → (closers : List Char) → List Char →
    Option (List Char)
  | _, .separator, [], s => some s
  | [], _, _, _ => none
  | _ :: bound, .separator, close :: closers, s =>
    match skipSpace s with
    | [] => none
    | c :: s =>
      if c = close then skipRest? bound .separator closers s
      else if c = ',' then
        if close = '}' then
          match skipName? s with
          | none => none
          | some s => skipRest? bound .value (close :: closers) s
        else skipRest? bound .value (close :: closers) s
      else none
  | _ :: bound, .value, closers, s =>
    match skipSpace s with
    | '[' :: s =>
      match skipSpace s with
      | ']' :: s => skipRest? bound .separator closers s
      | s => skipRest? bound .value (']' :: closers) s
    | '{' :: s =>
      match skipSpace s with
      | '}' :: s => skipRest? bound .separator closers s
      | s =>
        match skipName? s with
        | none => none
        | some s => skipRest? bound .value ('}' :: closers) s
    | s =>
      match skipScalar? s with
      | none => none
      | some s => skipRest? bound .separator closers s

/-- Passes over a value, however deep it nests. -/
def skipValue? (s : List Char) : Option (List Char) :=
  skipRest? s .value [] s

end UnityBuild.Json
