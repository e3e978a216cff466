/-!
# Numbers in texts

The shell and its commands read numbers from the front of a text: blanks, a sign, and digits in
base ten, or in the base that a leading zero announces.
-/

namespace UnityBuild.Shell

/-- The blanks that may surround a number. -/
def isNumberBlank (c : Char) : Bool :=
  c == ' ' || ('\t' ≤ c && c ≤ '\r')

/-- The value of a digit in any base up to sixteen. -/
def digitValue? (c : Char) : Option Nat :=
  if '0' ≤ c ∧ c ≤ '9' then some (c.toNat - '0'.toNat)
  else if 'a' ≤ c ∧ c ≤ 'f' then some (c.toNat - 'a'.toNat + 10)
  else if 'A' ≤ c ∧ c ≤ 'F' then some (c.toNat - 'A'.toNat + 10)
  else none

/-- Whether a character is a digit in a base. -/
def isDigitIn (base : Nat) (c : Char) : Bool :=
  match digitValue? c with
  | some d => d < base
  | none => false

/-- The number that digits in a base write. -/
def digitsValue (base : Nat) (digits : List Char) : Nat :=
  digits.foldl (fun n c => n * base + (digitValue? c).getD 0) 0

/-- The base that the start of a number announces, and what follows the announcement. -/
def announcedBase (s : List Char) : Nat × List Char :=
  match s with
  | '0' :: x :: d :: rest =>
    if (x = 'x' ∨ x = 'X') ∧ isDigitIn 16 d then (16, d :: rest) else (8, s)
  | '0' :: _ => (8, s)
  | _ => (10, s)

/-- Reads digits from the front of a text; none when there is none. -/
def readDigits? (announced : Bool) (s : List Char) : Option (Nat × List Char) :=
  let (base, s) := if announced then announcedBase s else (10, s)
  let digits := s.takeWhile (isDigitIn base)
  if digits.isEmpty then none else some (digitsValue base digits, s.drop digits.length)

/-- Reads a number from the front of a text. -/
def readInteger? (announced : Bool) (s : List Char) : Option (Int × List Char) :=
  match s.dropWhile isNumberBlank with
  | '-' :: s => (readDigits? announced s).map fun (n, rest) => (-(n : Int), rest)
  | '+' :: s => (readDigits? announced s).map fun (n, rest) => ((n : Int), rest)
  | s => (readDigits? announced s).map fun (n, rest) => ((n : Int), rest)

/-- The largest number that arithmetic knows. -/
def maxInteger : Int := 9223372036854775807

/-- The smallest number that arithmetic knows. -/
def minInteger : Int := -9223372036854775808

/-- Whether arithmetic knows a number. -/
def inRange (n : Int) : Bool :=
  minInteger ≤ n && n ≤ maxInteger

/-- The nearest number that arithmetic knows. -/
def clamp (n : Int) : Int :=
  if n < minInteger then minInteger else if maxInteger < n then maxInteger else n

/-- The number that a whole text writes. -/
def integerOf? (text : String) : Option Int :=
  match readInteger? false text.toList with
  | some (n, rest) => if rest.all isNumberBlank && inRange n then some n else none
  | none => none

/-- The number that a variable holds; one without characters counts as zero. -/
def variableNumber? (text : String) : Option Int :=
  match readInteger? true text.toList with
  | some (n, rest) => if rest.all isNumberBlank && inRange n then some n else none
  | none => if text.toList.all isNumberBlank then some 0 else none

/-- The largest status or count. -/
def maxCount : Int := 2147483647

/-- The count that a text writes. -/
def countOf? (text : String) : Option Nat :=
  match integerOf? text with
  | some n => if 0 ≤ n ∧ n ≤ maxCount then some n.toNat else none
  | none => none

end UnityBuild.Shell
