import UnityBuild.Shell.Number

/-!
# Patterns

A pattern is a text in which a question mark stands for any character, a star for any characters,
and brackets for one of several characters. Quoted characters stand for themselves.

A pattern is read once, by `Pattern.read`; whether a text has the form is then decided by
recursion on the parts of the pattern.
-/

namespace UnityBuild.Shell

/-- A character of a pattern. -/
structure PatternChar where
  char : Char
  quoted : Bool
deriving DecidableEq, Repr

/-- The classes of characters that brackets can name. -/
def classTest? (name : String) : Option (Char → Bool) :=
  match name with
  | "alpha" => some Char.isAlpha
  | "digit" => some Char.isDigit
  | "alnum" => some Char.isAlphanum
  | "upper" => some Char.isUpper
  | "lower" => some Char.isLower
  | "space" => some isNumberBlank
  | "blank" => some fun c => c == ' ' || c == '\t'
  | "punct" => some fun c => '!' ≤ c && c ≤ '~' && !c.isAlphanum
  | "print" => some fun c => ' ' ≤ c && c ≤ '~'
  | "graph" => some fun c => '!' ≤ c && c ≤ '~'
  | "cntrl" => some fun c => c < ' ' || c == '\x7f'
  | "xdigit" => some (isDigitIn 16)
  | _ => none

/-- What brackets can hold. -/
inductive BracketItem where
  | range (first last : Char)
  | named (name : String)
deriving DecidableEq, Repr

/-- Whether a character is meant by an item. -/
def BracketItem.covers (c : Char) : BracketItem → Bool
  | range first last => first ≤ c && c ≤ last
  | named name => ((classTest? name).map (· c)).getD false

/-- A part of a pattern that was read. -/
inductive PatternPart where
  | char (c : Char)
  | anyChar
  | anyText
  | oneOf (inverted : Bool) (items : List BracketItem)
deriving DecidableEq, Repr

/-- A pattern that was read. -/
abbrev Pattern := List PatternPart

namespace Pattern

/-- Whether a character is an unquoted sign. -/
def isSign (sign : Char) (c : PatternChar) : Bool :=
  c.char == sign && !c.quoted

/-- Reads a named class from the front, behind its opening bracket. -/
def readClass? : List PatternChar → Option (String × List PatternChar)
  | colon :: s =>
    if isSign ':' colon then
      let name := s.takeWhile fun c => c.char.isAlpha
      match s.drop name.length with
      | a :: b :: rest =>
        let text := String.ofList (name.map (·.char))
        if isSign ':' a && isSign ']' b && (classTest? text).isSome then some (text, rest)
        else none
      | _ => none
    else none
  | [] => none

/-- Reads the items of brackets up to the closing one; `first` tells that none was read yet. -/
def readItems? : Nat → (first : Bool) → List PatternChar →
    Option (List BracketItem × List PatternChar)
  | 0, _, _ => none
  | _ + 1, _, [] => none
  | fuel + 1, first, c :: s =>
    if isSign ']' c && !first then some ([], s)
    else
      let named := if isSign '[' c then readClass? s else none
      match named with
      | some (name, s) =>
        (readItems? fuel false s).map fun (items, rest) => (.named name :: items, rest)
      | none =>
        let (c, s) := match isSign '\\' c, s with
          | true, d :: s => (d, s)
          | _, s => (c, s)
        match s with
        | dash :: d :: rest =>
          if isSign '-' dash && !isSign ']' d then
            let (d, rest) := match isSign '\\' d, rest with
              | true, e :: rest => (e, rest)
              | _, rest => (d, rest)
            (readItems? fuel false rest).map fun (items, rest) =>
              (.range c.char d.char :: items, rest)
          else
            (readItems? fuel false s).map fun (items, rest) => (.range c.char c.char :: items, rest)
        | s =>
          (readItems? fuel false s).map fun (items, rest) => (.range c.char c.char :: items, rest)

/-- Reads brackets behind the opening one. -/
def readBrackets? (s : List PatternChar) : Option (PatternPart × List PatternChar) :=
  let inverted := (s.head?.map (isSign '!')).getD false
  let s := if inverted then s.drop 1 else s
  (readItems? (s.length + 1) true s).map fun (items, rest) => (.oneOf inverted items, rest)

/-- Reads a pattern; `fuel` bounds its length. -/
def readWithin : Nat → List PatternChar → Pattern
  | 0, _ => []
  | _ + 1, [] => []
  | fuel + 1, c :: s =>
    if c.quoted then .char c.char :: readWithin fuel s
    else match c.char with
      | '?' => .anyChar :: readWithin fuel s
      | '*' => .anyText :: readWithin fuel s
      | '\\' =>
        match s with
        | d :: s => .char d.char :: readWithin fuel s
        | [] => [.char '\\']
      | '[' =>
        match readBrackets? s with
        | some (part, rest) => part :: readWithin fuel rest
        | none => .char '[' :: readWithin fuel s
      | other => .char other :: readWithin fuel s

/-- Reads a pattern. -/
def read (s : List PatternChar) : Pattern :=
  readWithin (s.length + 1) s

/-- Whether a text or one of its ends passes a test. -/
def anyEnd (test : List Char → Bool) : List Char → Bool
  | [] => test []
  | c :: s => test (c :: s) || anyEnd test s

/-- Whether a text has the form of a pattern. -/
def fits : Pattern → List Char → Bool
  | [], s => s.isEmpty
  | .char c :: parts, s =>
    match s with
    | d :: s => c == d && fits parts s
    | [] => false
  | .anyChar :: parts, s =>
    match s with
    | _ :: s => fits parts s
    | [] => false
  | .oneOf inverted items :: parts, s =>
    match s with
    | c :: s => (items.any (·.covers c)) != inverted && fits parts s
    | [] => false
  | .anyText :: parts, s => anyEnd (fits parts) s

/-- Whether a pattern has parts that do not stand for themselves. -/
def isPlain (p : Pattern) : Bool :=
  p.all fun
    | .char _ => true
    | _ => false

/-- The text of a pattern that stands for itself. -/
def plainText (p : Pattern) : String :=
  String.ofList (p.filterMap fun
    | .char c => some c
    | _ => none)

/-- Drops the shortest part at the front that has the form. -/
def dropShortestFront (p : Pattern) (s : List Char) : List Char :=
  match (List.range (s.length + 1)).find? fun n => p.fits (s.take n) with
  | some n => s.drop n
  | none => s

/-- Drops the longest part at the front that has the form. -/
def dropLongestFront (p : Pattern) (s : List Char) : List Char :=
  match (List.range (s.length + 1)).reverse.find? fun n => p.fits (s.take n) with
  | some n => s.drop n
  | none => s

/-- Drops the shortest part at the back that has the form. -/
def dropShortestBack (p : Pattern) (s : List Char) : List Char :=
  match (List.range (s.length + 1)).reverse.find? fun n => p.fits (s.drop n) with
  | some n => s.take n
  | none => s

/-- Drops the longest part at the back that has the form. -/
def dropLongestBack (p : Pattern) (s : List Char) : List Char :=
  match (List.range (s.length + 1)).find? fun n => p.fits (s.drop n) with
  | some n => s.take n
  | none => s

end Pattern

end UnityBuild.Shell
