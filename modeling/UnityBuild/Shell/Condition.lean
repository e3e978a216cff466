import UnityBuild.Shell.State
import UnityBuild.Shell.Number

/-!
# Conditions

`test` decides conditions on texts, numbers and files. Conditions are joined by `-a`, which binds
tighter, and `-o`. A word is an operator only where one can stand.

Main definition: `Condition.decide`.
-/

namespace UnityBuild.Shell.Condition

/-- Operators in front of one operand. -/
def unaryOperators : List String :=
  ["-r", "-w", "-x", "-e", "-f", "-d", "-c", "-b", "-p", "-u", "-g", "-k", "-s", "-t", "-z", "-n",
    "-h", "-L", "-O", "-G", "-S"]

/-- Operators between two operands. -/
def binaryOperators : List String :=
  ["=", "!=", "<", ">", "-eq", "-ne", "-ge", "-gt", "-le", "-lt", "-nt", "-ot", "-ef"]

/-- What a word means where a condition can start. -/
inductive Meaning where
  | unary
  | binary
  | not
  | andIf
  | orIf
  | openParen
  | closeParen
  | operand
  | nothing
deriving DecidableEq, Repr

/-- The operator that a word spells. -/
def operator? (word : String) : Option Meaning :=
  if unaryOperators.contains word then some .unary
  else if binaryOperators.contains word then some .binary
  else match word with
    | "!" => some .not
    | "-a" => some .andIf
    | "-o" => some .orIf
    | "(" => some .openParen
    | ")" => some .closeParen
    | _ => none

/-- Whether a word spells an operator between operands. -/
def isBinary (word : String) : Bool :=
  operator? word == some .binary

/-- Whether the first of some words is an operand although it spells an operator. -/
def isOperand : List String → Bool
  | [] => true
  | [_] => true
  | [_, _] => false
  | _ :: second :: _ => isBinary second

/-- What the first of some words means. -/
def meaning : List String → Meaning
  | [] => .nothing
  | word :: rest =>
    match operator? word with
    | some .unary => if isOperand (word :: rest) then .operand else .unary
    | some .openParen => if rest.isEmpty then .operand else .openParen
    | some other => other
    | none => .operand

/-- A complaint about a word. -/
def complaint (word problem : String) : String :=
  if word.isEmpty then problem else word ++ ": " ++ problem

/-- The number that an operand writes. -/
def number (word : String) : Except String Int :=
  match integerOf? word with
  | some n => .ok n
  | none => .error ("Illegal number: " ++ word)

/-- Decides a condition on a file. -/
def onFile (files : FileSystem) (operator path : String) : Bool :=
  if operator = "-L" || operator = "-h" then files.isLink ⟨path⟩
  else
    match files.entryAt ⟨path⟩ with
    | .error _ => false
    | .ok entry => holdsOf operator entry
where
  holdsOf (operator : String) (entry : Entry) : Bool :=
    match operator, entry with
    | "-e", _ => true
    | "-r", _ => true
    | "-w", _ => true
    | "-O", _ => true
    | "-G", _ => true
    | "-x", .directory => true
    | "-x", .file _ rights => rights.isExecutable
    | "-d", .directory => true
    | "-s", .directory => true
    | "-s", .file content _ => content.size != 0
    | "-f", .file _ _ => true
    | "-c", .device _ => true
    | _, _ => false

/-- Decides a condition with one operand. -/
def unary (files : FileSystem) (operator operand : String) : Except String Bool :=
  match operator with
  | "-z" => .ok operand.isEmpty
  | "-n" => .ok !operand.isEmpty
  | "-t" => (number operand).map fun _ => false
  | operator => .ok (onFile files operator operand)

/-- Compares two numbers. -/
def compareNumbers (operator : String) (a b : Int) : Bool :=
  match operator with
  | "-eq" => a == b
  | "-ne" => a != b
  | "-ge" => b ≤ a
  | "-gt" => b < a
  | "-le" => a ≤ b
  | _ => a < b

/-- Whether two paths lead to the same place. -/
def samePlace (files : FileSystem) (a b : String) : Bool :=
  match files.locate ⟨a⟩, files.locate ⟨b⟩ with
  | .ok p, .ok q => (files.namesOf p).contains q && (files.get? p).isSome
  | _, _ => false

/-- Decides a condition with two operands. Files have no age, so none is newer than another. -/
def binary (files : FileSystem) (a operator b : String) : Except String Bool :=
  match operator with
  | "=" => .ok (a == b)
  | "!=" => .ok (a != b)
  | "<" => .ok (a < b)
  | ">" => .ok (b < a)
  | "-nt" => .ok false
  | "-ot" => .ok false
  | "-ef" => .ok (samePlace files a b)
  | operator => do return compareNumbers operator (← number a) (← number b)

/-- What a part of a condition decides, and the words from its last one on. -/
abbrev Decision := Except String (Bool × List String)

section Deciding

variable (files : FileSystem) (whole : List String → Decision)

/-- Decides a condition that is not joined, given how conditions in parentheses are decided. -/
def decidePrimary (as : Meaning) (words : List String) : Decision :=
  match as, words with
  | .nothing, _ => .ok (false, words)
  | _, [] => .ok (false, [])
  | .openParen, _ :: rest =>
    if meaning rest = .closeParen then .ok (false, rest)
    else
      match whole rest with
      | .error e => .error e
      | .ok (result, last) =>
        if meaning (last.drop 1) = .closeParen then .ok (result, last.drop 1)
        else .error "closing paren expected"
  | .unary, operator :: rest =>
    match rest with
    | [] => .error (complaint operator "argument expected")
    | operand :: _ => (unary files operator operand).map fun result => (result, rest)
  | _, first :: rest =>
    match rest with
    | second :: behind =>
      if isBinary second then
        match behind with
        | [] => .error (complaint second "argument expected")
        | third :: _ => (binary files first second third).map fun result => (result, behind)
      else .ok (!first.isEmpty, first :: rest)
    | [] => .ok (!first.isEmpty, [first])

/-- Decides a condition that may be turned around. -/
def decideNot : Nat → Meaning → List String → Decision
  | 0, _, words => .ok (false, words)
  | fuel + 1, .not, words =>
    let next := meaning (words.drop 1)
    let rest := if next = .nothing then words else words.drop 1
    (decideNot fuel next rest).map fun (result, last) => (!result, last)
  | _ + 1, as, words => decidePrimary files whole as words

/-- Decides conditions of which all must hold. -/
def decideAnd : Nat → Meaning → Bool → List String → Decision
  | 0, _, result, words => .ok (result, words)
  | fuel + 1, as, result, words =>
    match decideNot files whole (words.length + 1) as words with
    | .error e => .error e
    | .ok (next, last) =>
      if meaning (last.drop 1) = .andIf then
        decideAnd fuel (meaning (last.drop 2)) (result && next) (last.drop 2)
      else .ok (result && next, last)

/-- Decides conditions of which one must hold. -/
def decideOr : Nat → Meaning → Bool → List String → Decision
  | 0, _, result, words => .ok (result, words)
  | fuel + 1, as, result, words =>
    match decideAnd files whole (words.length + 1) as true words with
    | .error e => .error e
    | .ok (next, last) =>
      if meaning (last.drop 1) = .orIf then
        decideOr fuel (meaning (last.drop 2)) (result || next) (last.drop 2)
      else .ok (result || next, last)

end Deciding

/-- Decides a condition in which parentheses nest at most `depth` deep. -/
def decideWithin (files : FileSystem) : Nat → Meaning → List String → Decision
  | 0, _, _ => .error "closing paren expected"
  | depth + 1, as, words =>
    decideOr files (fun words => decideWithin files depth (meaning words) words)
      (words.length + 1) as false words

/-- Decides a condition that starts with a word of a certain meaning; all words must be used. -/
def decideFrom (files : FileSystem) (as : Meaning) (words : List String) : Except String Bool :=
  match decideWithin files (words.length + 1) as words with
  | .error e => .error e
  | .ok (_, first :: _ :: _) => .error (complaint first "unexpected operator")
  | .ok (result, _) => .ok result

/-- Decides a condition. Between two operands an operator is always one, and parentheses around
one or two words always enclose them. -/
def decide (files : FileSystem) (words : List String) : Except String Bool :=
  match words with
  | [] => .ok false
  | [a, b, c] =>
    if isBinary b then decideFrom files .operand words
    else if a = "(" ∧ c = ")" then decideFrom files (meaning [b]) [b]
    else decideFrom files (meaning words) words
  | [a, b, c, d] =>
    if a = "(" ∧ d = ")" then decideFrom files (meaning [b, c]) [b, c]
    else decideFrom files (meaning words) words
  | words => decideFrom files (meaning words) words

end UnityBuild.Shell.Condition
