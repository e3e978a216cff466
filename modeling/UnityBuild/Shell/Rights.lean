import UnityBuild.FileSystem.Basic
import UnityBuild.Shell.Number
import UnityBuild.Text.Split

/-!
# Changing rights

Rights are changed by a number in base eight, or by clauses that tell whose rights are changed, how
and to what. A clause that names nobody means all whom a mask does not exclude.

Main definitions: `RightsChange.read?` and `RightsChange.apply`.
-/

namespace UnityBuild.Shell

/-- All rights, with the three bits in front of them. -/
def allRights : Rights := 0o7777

/-- The rights that new files do not have. -/
def mask : Rights := 0o022

/-- Which rights a step of a clause is about: fixed ones, the right to run where anyone has it, or
those that someone has. -/
inductive RightsValue where
  | fixed (bits : Rights)
  | runIfAny (bits : Rights)
  | copied (shift : Nat)
deriving DecidableEq, Repr

/-- A step of a clause: whom it is about, nobody standing for all, its sign, and the rights. -/
structure RightsStep where
  who : Rights
  sign : Char
  value : RightsValue
deriving DecidableEq, Repr

/-- A change of rights. -/
inductive RightsChange where
  | number (rights : Rights)
  | steps (steps : List RightsStep)
deriving DecidableEq, Repr

namespace RightsChange

/-- The bits of those whom a letter names. -/
def whoBits? : Char → Option Rights
  | 'u' => some 0o4700
  | 'g' => some 0o2070
  | 'o' => some 0o1007
  | 'a' => some allRights
  | _ => none

/-- The bits of a right. -/
def rightBits? : Char → Option Rights
  | 'r' => some 0o444
  | 'w' => some 0o222
  | 'x' => some 0o111
  | 's' => some 0o6000
  | 't' => some 0o1000
  | _ => none

/-- How far the rights of someone stand from the end. -/
def shift? : Char → Option Nat
  | 'u' => some 6
  | 'g' => some 3
  | 'o' => some 0
  | _ => none

/-- Whether a character starts a step. -/
def isSign (c : Char) : Bool :=
  c == '+' || c == '-' || c == '='

/-- The rights that letters name. -/
def readValue? : List Char → Option RightsValue
  | [c] =>
    match shift? c with
    | some shift => some (.copied shift)
    | none => readLetters [c]
  | letters => readLetters letters
where
  readLetters (letters : List Char) : Option RightsValue := do
    let bits ← (letters.filter (· != 'X')).mapM rightBits?
    let bits := bits.foldl (· ||| ·) 0
    return if letters.contains 'X' then .runIfAny bits else .fixed bits

/-- The steps of a clause behind whom it names; `rounds` bounds how many there are. -/
def readSteps? (who : Rights) : Nat → List Char → Option (List RightsStep)
  | 0, _ => none
  | _ + 1, [] => some []
  | rounds + 1, sign :: rest => do
    if !isSign sign then none
    let letters := rest.takeWhile fun c => !isSign c
    let value ← readValue? letters
    let others ← readSteps? who rounds (rest.drop letters.length)
    return ⟨who, sign, value⟩ :: others

/-- The steps of a clause. -/
def readClause? (clause : List Char) : Option (List RightsStep) := do
  let named := clause.takeWhile fun c => (whoBits? c).isSome
  let who := (named.filterMap whoBits?).foldl (· ||| ·) 0
  let rest := clause.drop named.length
  if rest.isEmpty then none
  readSteps? who (rest.length + 1) rest

/-- Reads a change of rights. -/
def read? (text : String) : Option RightsChange :=
  let chars := text.toList
  if chars.isEmpty then none
  else if chars.all Char.isDigit then
    if chars.all (isDigitIn 8) && digitsValue 8 chars ≤ allRights then
      some (.number (digitsValue 8 chars))
    else none
  else do
    let clauses ← (Text.splitAt (· == ',') chars).mapM readClause?
    return .steps clauses.flatten

/-- The rights that a step is about, given those that were there. -/
def RightsValue.bits (directory : Bool) (old : Rights) : RightsValue → Rights
  | .fixed bits => bits
  | .runIfAny bits => if directory || old.isExecutable then bits ||| Rights.runBits else bits
  | .copied shift => old / Nat.pow 2 shift % 8 * 0o111

/-- The rights after a step. -/
def applyStep (mask : Rights) (directory : Bool) (old : Rights) (step : RightsStep) : Rights :=
  let affected := if step.who = 0 then allRights ^^^ mask else step.who
  let bits := RightsValue.bits directory old step.value &&& affected
  match step.sign with
  | '+' => old ||| bits
  | '-' => old &&& (allRights ^^^ bits)
  | _ => (old &&& (if step.who = 0 then 0 else allRights ^^^ step.who)) ||| bits

/-- The rights after a change. -/
def apply (mask : Rights) (directory : Bool) (old : Rights) : RightsChange → Rights
  | number rights => rights
  | steps all => all.foldl (applyStep mask directory) old

end RightsChange

end UnityBuild.Shell
