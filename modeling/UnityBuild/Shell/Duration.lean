import UnityBuild.Shell.Number

/-!
# Durations

A duration is a decimal number with an optional unit, seconds when there is none. It is counted in
millionths of a second.
-/

namespace UnityBuild.Shell

/-- How many millionths of a second a second has. -/
def secondTime : Nat := 1000000

/-- How many seconds a unit has. -/
def unitSeconds? : List Char → Option Nat
  | [] => some 1
  | ['s'] => some 1
  | ['m'] => some 60
  | ['h'] => some 3600
  | ['d'] => some 86400
  | _ => none

/-- The time that a text writes; what is less than a millionth of a second is dropped. -/
def durationOf? (text : String) : Option Nat := do
  let chars := text.toList
  if chars = "inf".toList || chars = "infinity".toList then some (secondTime * secondTime)
  else
    let whole := chars.takeWhile Char.isDigit
    let rest := chars.drop whole.length
    let (part, unit) := match rest with
      | '.' :: behind =>
        let part := behind.takeWhile Char.isDigit
        (part, behind.drop part.length)
      | rest => ([], rest)
    if whole.isEmpty && part.isEmpty then none
    let seconds ← unitSeconds? unit
    let digits := (part ++ List.replicate 6 '0').take 6
    return (digitsValue 10 whole * secondTime + digitsValue 10 digits) * seconds

end UnityBuild.Shell
