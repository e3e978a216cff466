/-!
# Shortest decimal texts of binary numbers

A positive binary floating-point number is `mantissa * 2 ^ exponent`. All reals nearer to it than
to its neighbours read back as the same number, so the shortest decimal in that interval names
it. The digits are found by trying ever finer powers of ten and taking the first that has a
multiple in the interval; of several, the one nearest to the number.
-/

namespace UnityBuild.Decimal

/-- A positive number `digits * 10 ^ exponent`. -/
structure Scientific where
  digits : Nat
  exponent : Int
deriving DecidableEq, Repr

/-- The interval of reals that are read as one number, in units of `2 ^ exponent`: its ends, the
number itself, and whether the ends belong to it. -/
structure Interval where
  low : Nat
  value : Nat
  high : Nat
  exponent : Int
  closed : Bool

/-- The fraction `n * 2 ^ e / 10 ^ k` as a numerator and a denominator. -/
def scaled (n : Nat) (e k : Int) : Nat × Nat :=
  (n * Nat.pow 2 e.toNat * Nat.pow 10 (-k).toNat, Nat.pow 2 (-e).toNat * Nat.pow 10 k.toNat)

/-- Whether `d * 10 ^ k` lies in the interval. -/
def Interval.holds (i : Interval) (k : Int) (d : Nat) : Bool :=
  let (low, lowUnit) := scaled i.low i.exponent k
  let (high, highUnit) := scaled i.high i.exponent k
  if i.closed then low ≤ d * lowUnit && d * highUnit ≤ high
  else low < d * lowUnit && d * highUnit < high

/-- The multiple of `10 ^ k` in the interval that is nearest to the number; of two that are
equally near, the even one. -/
def Interval.nearest? (i : Interval) (k : Int) : Option Nat :=
  let (value, unit) := scaled i.value i.exponent k
  let below := value / unit
  let twice := 2 * (value % unit)
  let holdsBelow := 0 < below && i.holds k below
  let holdsAbove := i.holds k (below + 1)
  if holdsBelow && holdsAbove then
    some (if twice < unit || (twice = unit && below % 2 = 0) then below else below + 1)
  else if holdsBelow then some below
  else if holdsAbove then some (below + 1)
  else none

/-- The coarsest power of ten, from `10 ^ k` down over `steps` powers, with a multiple in the
interval. -/
def Interval.shortestFrom (i : Interval) : Nat → Int → Option Scientific
  | 0, _ => none
  | steps + 1, k =>
    match i.nearest? k with
    | some d => some ⟨d, k⟩
    | none => i.shortestFrom steps (k - 1)

/-- How many fractions a number with 64 bits can have; its mantissa has one bit more. -/
def fractionCount : Nat := 0x10000000000000

/-- The first bit of a number with 64 bits is its sign. -/
def signBit : Nat := 0x8000000000000000

/-- The interval of a number with 64 bits from its fraction and its biased exponent. -/
def intervalOf (fraction biased : Nat) : Interval :=
  let mantissa := if biased = 0 then fraction else fractionCount + fraction
  let exponent : Int := (if biased = 0 then 1 else biased) - 1075
  let low := if fraction = 0 ∧ 1 < biased then 4 * mantissa - 1 else 4 * mantissa - 2
  ⟨low, 4 * mantissa, 4 * mantissa + 2, exponent - 2, mantissa % 2 = 0⟩

/-- The shortest digits of a positive finite number, given by its bits without the sign. -/
def shortest? (bits : Nat) : Option Scientific :=
  (intervalOf (bits % fractionCount) (bits / fractionCount)).shortestFrom 700 310

/-- Writes a number positionally, with a point and at least one digit on both sides of it. -/
def positional (s : Scientific) : List Char :=
  let digits := Nat.toDigits 10 s.digits
  if 0 ≤ s.exponent then digits ++ List.replicate s.exponent.toNat '0' ++ ['.', '0']
  else
    let places := (-s.exponent).toNat
    if places < digits.length then
      digits.take (digits.length - places) ++ '.' :: digits.drop (digits.length - places)
    else ['0', '.'] ++ List.replicate (places - digits.length) '0' ++ digits

/-- The power of ten of the first digit. -/
def Scientific.order (s : Scientific) : Int :=
  s.exponent + ((Nat.toDigits 10 s.digits).length - 1 : Nat)

/-- Writes the power of ten behind its mark, always with a sign. -/
def powerText (order : Int) : List Char :=
  ['e', if order < 0 then '-' else '+'] ++ Nat.toDigits 10 order.natAbs

/-- Writes a number with its point behind the first digit; a single digit has no point. -/
def withPower (s : Scientific) : List Char :=
  match Nat.toDigits 10 s.digits with
  | first :: second :: rest => first :: '.' :: second :: rest ++ powerText s.order
  | digits => digits ++ powerText s.order

/-- Numbers from a hundred-thousandth up to sixteen digits are written positionally. -/
def isPlain (s : Scientific) : Bool :=
  decide (-5 ≤ s.order) && decide (s.order ≤ 15)

/-- Writes a positive number. -/
def Scientific.text (s : Scientific) : List Char :=
  if isPlain s then positional s else withPower s

/-- The text of a finite number with 64 bits: its sign, then its shortest digits. -/
def textOfBits (bits : Nat) : List Char :=
  let sign := if signBit ≤ bits then ['-'] else []
  let size := bits % signBit
  if size = 0 then sign ++ ['0', '.', '0']
  else sign ++ ((shortest? size).map Scientific.text).getD []

end UnityBuild.Decimal
