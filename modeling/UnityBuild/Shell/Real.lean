import UnityBuild.Shell.Number

/-!
# Real numbers in formatted output

A real number is a binary floating point number of 64 bits. Its decimal digits are computed
exactly and rounded to the digits that are asked for, a half to the even neighbour.
-/

namespace UnityBuild.Shell

/-- The size of a real number: a whole number times a power of two, or none of them. -/
inductive Magnitude where
  | finite (significand : Nat) (exponent : Int)
  | infinite
  | notANumber
deriving DecidableEq, Repr

/-- A real number with its sign. -/
structure Real64 where
  negative : Bool
  magnitude : Magnitude
deriving DecidableEq, Repr

namespace Real64

/-- The real number of a floating point number. -/
def ofFloat (x : Float) : Real64 :=
  let bits := x.toBits.toNat
  let fraction := bits % 4503599627370496
  let exponent := bits / 4503599627370496 % 2048
  let magnitude :=
    if exponent = 2047 then if fraction = 0 then .infinite else .notANumber
    else if exponent = 0 then .finite fraction (-1074)
    else .finite (fraction + 4503599627370496) ((exponent : Int) - 1075)
  ⟨bits / 9223372036854775808 = 1, magnitude⟩

/-- A quotient rounded to the nearest whole number, a half to the even one. -/
def roundDiv (num den : Nat) : Nat :=
  let quotient := num / den
  let rest := 2 * (num % den)
  if rest < den then quotient
  else if den < rest then quotient + 1
  else quotient + quotient % 2

/-- A size as a quotient, times a power of ten. -/
def scaled (significand : Nat) (exponent : Int) (power : Int) : Nat × Nat :=
  (significand * Nat.pow 2 exponent.toNat * Nat.pow 10 power.toNat,
    Nat.pow 2 (-exponent).toNat * Nat.pow 10 (-power).toNat)

/-- The decimal digits of a whole number. -/
def digitsOf (n : Nat) : List Char :=
  Nat.toDigits 10 n

/-- Puts zeros in front up to a length. -/
def padZeros (length : Nat) (digits : List Char) : List Char :=
  List.replicate (length - digits.length) '0' ++ digits

/-- Digits with a point in front of the last `places` of them; `always` keeps a point that nothing
follows. -/
def withPoint (places : Nat) (always : Bool) (digits : List Char) : List Char :=
  let digits := padZeros (places + 1) digits
  let whole := digits.take (digits.length - places)
  let part := digits.drop (digits.length - places)
  if part.isEmpty && !always then whole else whole ++ '.' :: part

/-- The digits of a size with a number of places behind the point. -/
def fixedDigits (m : Nat) (e : Int) (places : Nat) (always : Bool) : List Char :=
  let (num, den) := scaled m e places
  withPoint places always (digitsOf (roundDiv num den))

/-- The power of ten of the first digit of a size that is not zero; `fuel` bounds the search. -/
def firstPower (m : Nat) (e : Int) : Nat → Int → Int
  | 0, power => power
  | fuel + 1, power =>
    let (num, den) := scaled m e (-power)
    if num < den then firstPower m e fuel (power - 1) else power

/-- The first digits of a size, and the power of ten of the first one. -/
def leadingDigits (m : Nat) (e : Int) (places : Nat) : List Char × Int :=
  if m = 0 then (List.replicate (places + 1) '0', 0)
  else
    let power := firstPower m e 700 310
    let (num, den) := scaled m e (places - power)
    let digits := digitsOf (roundDiv num den)
    if digits.length = places + 2 then (digits.dropLast, power + 1) else (digits, power)

/-- An exponent with its sign and at least two digits. -/
def exponentText (letter : Char) (power : Int) : List Char :=
  letter :: (if power < 0 then '-' else '+') :: padZeros 2 (digitsOf power.natAbs)

/-- Drops the zeros at the end of the places behind the point. -/
def dropZeros (digits : List Char) : List Char :=
  if digits.contains '.' then
    let kept := (digits.reverse.dropWhile (· == '0')).reverse
    if kept.getLast? == some '.' then kept.dropLast else kept
  else digits

/-- The digits of a size with one digit in front of the point. -/
def scientificDigits (m : Nat) (e : Int) (places : Nat) (always : Bool) (letter : Char) :
    List Char :=
  let (digits, power) := leadingDigits m e places
  withPoint places always digits ++ exponentText letter power

/-- The digits of a size in the shorter of the two ways. -/
def generalDigits (m : Nat) (e : Int) (precision : Nat) (always : Bool) (letter : Char) :
    List Char :=
  let precision := max precision 1
  let (digits, power) := leadingDigits m e (precision - 1)
  if -4 ≤ power ∧ power < precision then
    let text := fixedDigits m e ((precision : Int) - 1 - power).toNat always
    if always then text else dropZeros text
  else
    let text := withPoint (precision - 1) always digits
    (if always then text else dropZeros text) ++ exponentText letter power

/-- The digits of a size under a directive. -/
def digits (directive : Char) (precision : Nat) (always : Bool) : Magnitude → List Char
  | .finite m e =>
    match directive with
    | 'f' => fixedDigits m e precision always
    | 'F' => fixedDigits m e precision always
    | 'e' => scientificDigits m e precision always 'e'
    | 'E' => scientificDigits m e precision always 'E'
    | 'g' => generalDigits m e precision always 'e'
    | _ => generalDigits m e precision always 'E'
  | .infinite => (if directive.isUpper then "INF" else "inf").toList
  | .notANumber => (if directive.isUpper then "NAN" else "nan").toList

end Real64

/-- Reads decimal digits with a point among them: the digits without the point, and how many stand
behind it. -/
def readPointDigits? (s : List Char) : Option (Nat × Nat × List Char) :=
  let whole := s.takeWhile Char.isDigit
  let (part, rest) := match s.drop whole.length with
    | '.' :: s => (s.takeWhile Char.isDigit, s.dropWhile Char.isDigit)
    | s => ([], s)
  if whole.isEmpty && part.isEmpty then none
  else some (digitsValue 10 (whole ++ part), part.length, rest)

/-- Reads the exponent behind the digits of a real number. -/
def readPower (s : List Char) : Int × List Char :=
  match s with
  | e :: rest =>
    if e = 'e' ∨ e = 'E' then
      let (sign, rest) : Int × List Char := match rest with
        | '-' :: rest => (-1, rest)
        | '+' :: rest => (1, rest)
        | rest => (1, rest)
      let digits := rest.takeWhile Char.isDigit
      if digits.isEmpty then (0, s)
      else (sign * digitsValue 10 digits, rest.drop digits.length)
    else (0, s)
  | [] => (0, [])

/-- The floating point number of digits and a power of ten. -/
def floatOf (digits : Nat) (power : Int) : Float :=
  let power := max (-100000) (min power 100000)
  if power < 0 then Float.ofScientific digits true power.natAbs
  else Float.ofScientific digits false power.natAbs

/-- Reads a real number without a sign. -/
def readSize? (s : List Char) : Option (Real64 × List Char) :=
  let lower := s.map Char.toLower
  if "infinity".toList.isPrefixOf lower then some (⟨false, .infinite⟩, s.drop 8)
  else if "inf".toList.isPrefixOf lower then some (⟨false, .infinite⟩, s.drop 3)
  else if "nan".toList.isPrefixOf lower then some (⟨false, .notANumber⟩, s.drop 3)
  else match announcedBase s with
    | (16, digits) =>
      let hex := digits.takeWhile (isDigitIn 16)
      some (.ofFloat (floatOf (digitsValue 16 hex) 0), digits.drop hex.length)
    | _ =>
      (readPointDigits? s).map fun (digits, places, rest) =>
        let (power, rest) := readPower rest
        (.ofFloat (floatOf digits (power - places)), rest)

/-- Reads a real number from the front of a text. -/
def readReal? (s : List Char) : Option (Real64 × List Char) :=
  match s.dropWhile isNumberBlank with
  | '-' :: s => (readSize? s).map fun (x, rest) => ({ x with negative := true }, rest)
  | '+' :: s => readSize? s
  | s => readSize? s

end UnityBuild.Shell
