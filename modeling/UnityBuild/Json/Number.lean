import UnityBuild.Decimal

/-!
# Numbers of a JSON text

A number is read in two steps. `Literal.read?` takes the longest text of the number grammar from
the front: a sign, digits without a leading zero, a fraction and an exponent. `Literal.value?`
then gives its value. A literal of digits alone that fits 64 bits is an integer; any other is a
floating-point number, computed from the first digits that fit 64 bits by scaling with a power of
ten. A literal beyond the range of floating-point numbers has no value.
-/

namespace UnityBuild.Json

/-- The value of a number. -/
inductive Number where
  | integer (value : Int)
  | floating (value : Float)
deriving Repr

/-- The text of a number: an integer in decimal, any other with its shortest digits. -/
def Number.text : Number → List Char
  | .integer value => (toString value).toList
  | .floating value => Decimal.textOfBits value.toBits.toNat

/-- An exponent as it is written. -/
structure ExponentText where
  negative : Bool
  digits : List Char
deriving DecidableEq, Repr

/-- A number as it is written. -/
structure Literal where
  negative : Bool
  whole : List Char
  fraction : List Char
  exponent : Option ExponentText
deriving DecidableEq, Repr

/-- The value of a decimal digit. -/
def digitValue (c : Char) : Nat :=
  c.toNat - '0'.toNat

/-- Takes the digits from the front. -/
def takeDigits (s : List Char) : List Char × List Char :=
  (s.takeWhile Char.isDigit, s.dropWhile Char.isDigit)

/-- Reads the digits before the point; a zero stands alone. -/
def readWhole? (s : List Char) : Option (List Char × List Char) :=
  match takeDigits s with
  | ([], _) => none
  | ('0' :: _ :: _, _) => none
  | (digits, rest) => some (digits, rest)

/-- Reads a fraction, if a point follows; the point needs a digit behind it. -/
def readFraction? : List Char → Option (List Char × List Char)
  | '.' :: s =>
    match takeDigits s with
    | ([], _) => none
    | (digits, rest) => some (digits, rest)
  | s => some ([], s)

/-- Reads the sign of an exponent. -/
def readExponentSign : List Char → Bool × List Char
  | '+' :: s => (false, s)
  | '-' :: s => (true, s)
  | s => (false, s)

/-- Reads an exponent, if its mark follows; the mark needs a digit behind it. -/
def readExponent? : List Char → Option (Option ExponentText × List Char)
  | [] => some (none, [])
  | c :: s =>
    if c = 'e' ∨ c = 'E' then
      let (negative, s) := readExponentSign s
      match takeDigits s with
      | ([], _) => none
      | (digits, rest) => some (some ⟨negative, digits⟩, rest)
    else some (none, c :: s)

/-- Reads the sign of a number. -/
def readSign : List Char → Bool × List Char
  | '-' :: s => (true, s)
  | s => (false, s)

/-- Reads a number from the front of a text. -/
def Literal.read? (s : List Char) : Option (Literal × List Char) := do
  let (negative, s) := readSign s
  let (whole, s) ← readWhole? s
  let (fraction, s) ← readFraction? s
  let (exponent, s) ← readExponent? s
  return (⟨negative, whole, fraction, exponent⟩, s)

/-- The largest number that an unsigned word holds. -/
def wordMax : Nat := 0xFFFFFFFFFFFFFFFF

/-- The first digits that fit a word, as a number, and how many digits follow them. -/
def foldWhole : Nat → List Char → Nat × Nat
  | significand, [] => (significand, 0)
  | significand, c :: digits =>
    let next := significand * 10 + digitValue c
    if next ≤ wordMax then foldWhole next digits else (significand, digits.length + 1)

/-- Goes on with the digits of a fraction as long as they fit, and counts those taken. -/
def foldFraction : Nat → List Char → Nat × Nat
  | significand, [] => (significand, 0)
  | significand, c :: digits =>
    let next := significand * 10 + digitValue c
    if next ≤ wordMax then
      let (result, taken) := foldFraction next digits
      (result, taken + 1)
    else (significand, 0)

/-- The largest exponent that is computed with. -/
def exponentMax : Nat := 0x7FFFFFFF

/-- The value of the digits of an exponent, unless it is beyond the largest one. -/
def exponentValue? (digits : List Char) : Option Nat :=
  let value := digits.foldl (fun n c => n * 10 + digitValue c) 0
  if value ≤ exponentMax then some value else none

/-- The floating-point number nearest to a power of ten. -/
def powerOfTen (n : Nat) : Float :=
  Float.ofScientific 1 false n

/-- Divides by a power of ten; beyond the largest power that is a floating-point number it
divides in steps of that power, until nothing is left. -/
def divideByPower (x : Float) (n : Nat) : Float :=
  if n ≤ 308 then x / powerOfTen n
  else if x == 0 then x
  else divideByPower (x / powerOfTen 308) (n - 308)
termination_by n
decreasing_by omega

/-- Scales a significand by a power of ten; a result that is not finite is none. -/
def scale? (significand : Nat) (exponent : Int) : Option Float :=
  let x := (UInt64.ofNat significand).toFloat
  if exponent < 0 then some (divideByPower x exponent.natAbs)
  else if exponent.toNat ≤ 308 then
    let y := x * powerOfTen exponent.toNat
    if y.isInf then none else some y
  else if x == 0 then some x
  else none

/-- The scaled value with the exponent that is written, if any. -/
def Literal.magnitude? (significand : Nat) (shift : Int) : Option ExponentText → Option Float
  | none => scale? significand shift
  | some exponent =>
    match exponentValue? exponent.digits with
    | some value => scale? significand (if exponent.negative then shift - value else shift + value)
    | none => if significand = 0 ∨ exponent.negative then some 0 else none

/-- An integer that fits a word with or without a sign; others become floating-point numbers, and
so does the negative zero. -/
def integerNumber (negative : Bool) (significand : Nat) : Number :=
  if !negative then .integer significand
  else if 0 < significand ∧ significand ≤ 0x8000000000000000 then .integer (-significand)
  else .floating (-(UInt64.ofNat significand).toFloat)

/-- The value of a literal. -/
def Literal.value? (l : Literal) : Option Number :=
  let (significand, dropped) := foldWhole 0 l.whole
  if l.fraction.isEmpty ∧ l.exponent.isNone ∧ dropped = 0 then
    some (integerNumber l.negative significand)
  else
    let (significand, taken) := foldFraction significand l.fraction
    (Literal.magnitude? significand ((dropped : Int) - taken) l.exponent).map fun x =>
      .floating (if l.negative then -x else x)

end UnityBuild.Json
