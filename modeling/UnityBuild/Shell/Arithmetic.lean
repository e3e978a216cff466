import UnityBuild.Shell.Number

/-!
# Arithmetic of the shell

Expressions are those of C over integers of 64 bits: all operators but those that count up or down
and the comma. The value of a name is read from the variables; an assignment changes them. Parts
of an expression whose value does not matter are read, but change nothing and cannot fail.

Main definition: `Arithmetic.evaluate`.
-/

namespace UnityBuild.Shell.Arithmetic

/-- Operators between two values. -/
inductive Operator where
  | multiply
  | divide
  | remainder
  | add
  | subtract
  | shiftLeft
  | shiftRight
  | less
  | lessOrEqual
  | greater
  | greaterOrEqual
  | equal
  | notEqual
  | bitAnd
  | bitXor
  | bitOr
deriving DecidableEq, Repr

/-- How loosely an operator binds. -/
def Operator.looseness : Operator → Nat
  | multiply => 0
  | divide => 0
  | remainder => 0
  | add => 1
  | subtract => 1
  | shiftLeft => 2
  | shiftRight => 2
  | less => 3
  | lessOrEqual => 3
  | greater => 3
  | greaterOrEqual => 3
  | equal => 4
  | notEqual => 4
  | bitAnd => 5
  | bitXor => 6
  | bitOr => 7

/-- A token of an expression. -/
inductive Token where
  | number (value : Int)
  | name (text : String)
  | operator (op : Operator)
  | assign (op : Option Operator)
  | openParen
  | closeParen
  | not
  | bitNot
  | andIf
  | orIf
  | question
  | colon
  | bad
deriving DecidableEq, Repr

/-- Characters of a name. -/
def isNameChar (c : Char) : Bool :=
  c.isAlphanum || c == '_'

/-- An operator, or the assignment that is made of it by an equals sign behind it. -/
def orAssignment (op : Operator) : List Char → Token × List Char
  | '=' :: s => (.assign (some op), s)
  | s => (.operator op, s)

/-- Takes a token from the front of a text that is not empty and starts with no blank. -/
def takeToken (c : Char) (s : List Char) : Token × List Char :=
  if c.isDigit then
    match readDigits? true (c :: s) with
    | some (n, rest) => (.number (clamp n), rest)
    | none => (.bad, s)
  else if isNameChar c then
    (.name (String.ofList ((c :: s).takeWhile isNameChar)), (c :: s).dropWhile isNameChar)
  else match c, s with
    | '=', '=' :: s => (.operator .equal, s)
    | '=', s => (.assign none, s)
    | '>', '=' :: s => (.operator .greaterOrEqual, s)
    | '>', '>' :: s => orAssignment .shiftRight s
    | '>', s => (.operator .greater, s)
    | '<', '=' :: s => (.operator .lessOrEqual, s)
    | '<', '<' :: s => orAssignment .shiftLeft s
    | '<', s => (.operator .less, s)
    | '|', '|' :: s => (.orIf, s)
    | '|', s => orAssignment .bitOr s
    | '&', '&' :: s => (.andIf, s)
    | '&', s => orAssignment .bitAnd s
    | '!', '=' :: s => (.operator .notEqual, s)
    | '!', s => (.not, s)
    | '(', s => (.openParen, s)
    | ')', s => (.closeParen, s)
    | '*', s => orAssignment .multiply s
    | '/', s => orAssignment .divide s
    | '%', s => orAssignment .remainder s
    | '+', s => orAssignment .add s
    | '-', s => orAssignment .subtract s
    | '~', s => (.bitNot, s)
    | '^', s => orAssignment .bitXor s
    | '?', s => (.question, s)
    | ':', s => (.colon, s)
    | _, s => (.bad, s)

/-- Cuts an expression into tokens; `fuel` bounds its length. -/
def tokens : Nat → List Char → List Token
  | 0, _ => []
  | _ + 1, [] => []
  | fuel + 1, c :: s =>
    if c == ' ' || c == '\t' || c == '\n' then tokens fuel s
    else
      let (token, rest) := takeToken c s
      token :: tokens fuel rest

/-- Why an expression has no value. -/
inductive Problem where
  | expression (text : String)
  | badNumber (text : String)
deriving DecidableEq, Repr

/-- What is left of an expression, and the variables that it set. -/
structure Reading where
  tokens : List Token
  assigned : List (String × Int)

/-- Reads a part of an expression. -/
abbrev ReaderM := StateT Reading (Except Problem)

/-- The next token. -/
def peek? : ReaderM (Option Token) :=
  return (← get).tokens.head?

/-- Drops the next token. -/
def advance : ReaderM Unit :=
  modify fun r => { r with tokens := r.tokens.drop 1 }

/-- A number within the bounds of 64 bits; what goes beyond starts again at the other end. -/
def wrap (n : Int) : Int :=
  n.bmod 18446744073709551616

/-- The bits of a number. -/
def bits (n : Int) : UInt64 :=
  (Int64.ofInt n).toUInt64

/-- The number of bits. -/
def ofBits (b : UInt64) : Int :=
  b.toInt64.toInt

/-- The number of a truth value. -/
def ofBool (b : Bool) : Int :=
  if b then 1 else 0

/-- Applies an operator. -/
def apply (op : Operator) (a b : Int) : ReaderM Int :=
  match op with
  | .multiply => return wrap (a * b)
  | .divide =>
    if b = 0 then throw (.expression "division by zero") else return wrap (Int.tdiv a b)
  | .remainder =>
    if b = 0 then throw (.expression "division by zero") else return Int.tmod a b
  | .add => return wrap (a + b)
  | .subtract => return wrap (a - b)
  | .shiftLeft => return ofBits (bits a <<< bits b)
  | .shiftRight => return (Int64.ofInt a >>> Int64.ofInt (b % 64)).toInt
  | .less => return ofBool (a < b)
  | .lessOrEqual => return ofBool (a ≤ b)
  | .greater => return ofBool (b < a)
  | .greaterOrEqual => return ofBool (b ≤ a)
  | .equal => return ofBool (a = b)
  | .notEqual => return ofBool (a ≠ b)
  | .bitAnd => return ofBits (bits a &&& bits b)
  | .bitXor => return ofBits (bits a ^^^ bits b)
  | .bitOr => return ofBits (bits a ||| bits b)

section Readers

variable (value? : String → Option String)

/-- The number of a variable; one that is not set is zero. -/
def valueOf (name : String) : ReaderM Int := do
  match (← get).assigned.lookup name with
  | some n => return n
  | none =>
    let text := (value? name).getD ""
    match variableNumber? text with
    | some n => return n
    | none => throw (.badNumber text)

variable (whole : Bool → ReaderM Int)

/-- Reads a value with the signs in front of it. A value that is not `wanted` is only read. -/
def readPrimary (wanted : Bool) : Nat → ReaderM Int
  | 0 => throw (.expression "expecting primary")
  | fuel + 1 => do
    match ← peek? with
    | some (.number n) =>
      advance
      return n
    | some (.name text) =>
      advance
      if wanted then valueOf value? text else return 0
    | some .openParen =>
      advance
      let n ← whole wanted
      match ← peek? with
      | some .closeParen =>
        advance
        return n
      | _ => throw (.expression "expecting ')'")
    | some (.operator .add) =>
      advance
      readPrimary wanted fuel
    | some (.operator .subtract) =>
      advance
      return wrap (-(← readPrimary wanted fuel))
    | some .not =>
      advance
      return ofBool ((← readPrimary wanted fuel) = 0)
    | some .bitNot =>
      advance
      return -(← readPrimary wanted fuel) - 1
    | _ => throw (.expression "expecting primary")

/-- Goes on with operators that bind tighter than a bound, given the value in front of them. -/
def readOperators (wanted : Bool) : Nat → (bound : Nat) → Int → ReaderM Int
  | 0, _, a => return a
  | fuel + 1, bound, a => do
    match ← peek? with
    | some (.operator op) =>
      if bound ≤ op.looseness then return a
      advance
      let b ← readPrimary value? whole wanted (fuel + 1)
      let b ← readOperators wanted fuel op.looseness b
      let a ← if wanted then apply op a b else pure b
      readOperators wanted fuel bound a
    | _ => return a

/-- Looser than any operator. -/
def loosest : Nat := 8

/-- Reads operators and what stands between them. -/
def readSum (fuel : Nat) (wanted : Bool) : ReaderM Int := do
  readOperators value? whole wanted fuel loosest (← readPrimary value? whole wanted fuel)

/-- Reads values of which all must hold. -/
def readAnd (fuel : Nat) (wanted : Bool) : Nat → ReaderM Int
  | 0 => throw (.expression "expecting primary")
  | rounds + 1 => do
    let a ← readSum value? whole fuel wanted
    match ← peek? with
    | some .andIf =>
      advance
      let b ← readAnd fuel (wanted && a ≠ 0) rounds
      return ofBool (a ≠ 0 && b ≠ 0)
    | _ => return a

/-- Reads values of which one must hold. -/
def readOr (fuel : Nat) (wanted : Bool) : Nat → ReaderM Int
  | 0 => throw (.expression "expecting primary")
  | rounds + 1 => do
    let a ← readAnd value? whole fuel wanted fuel
    match ← peek? with
    | some .orIf =>
      advance
      let b ← readOr fuel (wanted && a = 0) rounds
      return ofBool (a ≠ 0 || b ≠ 0)
    | _ => return a

/-- Reads a choice between two values. -/
def readChoice (fuel : Nat) (wanted : Bool) : Nat → ReaderM Int
  | 0 => throw (.expression "expecting primary")
  | rounds + 1 => do
    let a ← readOr value? whole fuel wanted fuel
    match ← peek? with
    | some .question =>
      advance
      let b ← whole (wanted && a ≠ 0)
      match ← peek? with
      | some .colon =>
        advance
        let c ← readChoice fuel (wanted && a = 0) rounds
        return if a ≠ 0 then b else c
      | _ => throw (.expression "expecting ':'")
    | _ => return a

end Readers

/-- The name and the operator of an assignment at the front. -/
def assignment? : List Token → Option (String × Option Operator)
  | .name text :: .assign op :: _ => some (text, op)
  | _ => none

/-- Reads an expression; `fuel` bounds its length. -/
def readWhole (value? : String → Option String) : Nat → Bool → ReaderM Int
  | 0, _ => throw (.expression "expecting primary")
  | fuel + 1, wanted => do
    match assignment? (← get).tokens with
    | some (name, op) =>
      advance
      advance
      let b ← readWhole value? fuel wanted
      if !wanted then return b
      let result ← match op with
        | none => pure b
        | some op => apply op (← valueOf value? name) b
      modify fun r => { r with assigned := (name, result) :: r.assigned }
      return result
    | none => readChoice value? (readWhole value? fuel) (fuel + 1) wanted (fuel + 1)

/-- The value of an expression and the variables that it sets, in order. -/
def evaluate (value? : String → Option String) (text : String) :
    Except Problem (Int × List (String × Int)) := do
  let all := tokens (text.length + 1) text.toList
  let (n, reading) ← (readWhole value? (all.length + 1) true).run ⟨all, []⟩
  if reading.tokens.isEmpty then return (n, reading.assigned.reverse)
  else throw (.expression "expecting EOF")

end UnityBuild.Shell.Arithmetic
