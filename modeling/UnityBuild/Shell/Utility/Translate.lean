import UnityBuild.Shell.Regex.Read
import UnityBuild.Shell.Utility.Basic

/-!
# Translating characters

`tr` replaces, drops or squeezes characters. Its sets are written with escapes, ranges, classes,
and characters that are repeated until a set is as long as the other one.
-/

namespace UnityBuild.Shell.Utility.Translate

/-! ### Sets -/

/-- A character of a written set, and whether a backslash took its meaning as a sign. -/
structure SetChar where
  char : Char
  escaped : Bool
deriving DecidableEq, Repr

/-- Whether a character is a sign. -/
def SetChar.isSign (c : SetChar) (sign : Char) : Bool :=
  c.char == sign && !c.escaped

/-- The character that an escape stands for, and the rest behind it. -/
def escaped : List Char → Option (Char × List Char)
  | 'a' :: s => some ('\x07', s)
  | 'b' :: s => some ('\x08', s)
  | 'f' :: s => some ('\x0c', s)
  | 'n' :: s => some ('\n', s)
  | 'r' :: s => some ('\r', s)
  | 't' :: s => some ('\t', s)
  | 'v' :: s => some ('\x0b', s)
  | c :: s =>
    if isDigitIn 8 c then
      let digits := ((c :: s).take 3).takeWhile (isDigitIn 8)
      let digits := if 255 < digitsValue 8 digits then digits.take 2 else digits
      some (Char.ofNat (digitsValue 8 digits), (c :: s).drop digits.length)
    else some (c, s)
  | [] => none

/-- The characters of a written set; `rounds` bounds how many there are. -/
def setChars : Nat → List Char → List SetChar
  | 0, _ => []
  | _, [] => []
  | rounds + 1, '\\' :: s =>
    match escaped s with
    | some (c, rest) => ⟨c, true⟩ :: setChars rounds rest
    | none => [⟨'\\', true⟩]
  | rounds + 1, c :: s => ⟨c, false⟩ :: setChars rounds s

/-- A part of a set. -/
inductive Item where
  | chars (chars : List Char)
  | named (name : String) (chars : List Char)
  | same (c : Char)
  /-- A character that is repeated; zero stands for as often as needed. -/
  | repeated (c : Char) (count : Nat)
deriving DecidableEq, Repr

/-- All characters in order. -/
def allChars : List Char :=
  (List.range 256).map Char.ofNat

/-- What stands up to a sign and a closing bracket, and the rest behind them. -/
def cutNamed (sign : Char) : List SetChar → Option (List Char × List SetChar)
  | c :: d :: s =>
    if c.isSign sign && d.isSign ']' then some ([], s)
    else (cutNamed sign (d :: s)).map fun (name, rest) => (c.char :: name, rest)
  | _ => none

/-- A character that is repeated, behind its opening bracket. -/
def readRepeated? : List SetChar → Option (Item × List SetChar)
  | c :: star :: s =>
    if !star.isSign '*' then none
    else
      let digits := (s.takeWhile fun c => c.char.isDigit && !c.escaped)
      let rest := s.drop digits.length
      match rest with
      | close :: rest =>
        if !close.isSign ']' then none
        else
          let digits := digits.map (·.char)
          let base := if digits.head? == some '0' then 8 else 10
          some (.repeated c.char (digitsValue base digits), rest)
      | [] => none
  | _ => none

/-- A named class or an equivalent character, behind its opening bracket. -/
def readNamed? (s : List SetChar) : Except String (Option (Item × List SetChar)) :=
  match s with
  | sign :: rest =>
    if !(sign.isSign ':' || sign.isSign '=') then .ok none
    else
      match cutNamed sign.char rest with
      | none => .ok none
      | some (name, behind) =>
        let text := String.ofList name
        if sign.char == ':' then
          if name.isEmpty then .error "missing character class name '[::]'"
          else
            match Regex.classes.lookup text with
            | some test => .ok (some (.named text (allChars.filter test), behind))
            | none =>
              if (readRepeated? s).isSome then .ok none
              else .error ("invalid character class '" ++ text ++ "'")
        else
          match name with
          | [] => .error "missing equivalence class character '[==]'"
          | [c] => .ok (some (.same c, behind))
          | _ =>
            if (readRepeated? s).isSome then .ok none
            else .error (text ++ ": equivalence class operand must be a single character")
  | [] => .ok none

/-- The characters of a range. -/
def rangeChars (a b : Char) : List Char :=
  (List.range (b.toNat - a.toNat + 1)).map fun i => Char.ofNat (a.toNat + i)

/-- A character as it is shown in a complaint. -/
def shownChar (c : Char) : String :=
  if isVisible c then String.ofList [c] else escapeText c

/-- Reads the parts of a set; `rounds` bounds how many there are. -/
def readItems : Nat → List SetChar → Except String (List Item)
  | 0, _ => .ok []
  | _, [] => .ok []
  | rounds + 1, c :: s => do
    let bracketed ← if c.isSign '[' && 2 ≤ s.length then
        match ← readNamed? s with
        | some found => pure (some found)
        | none => pure (readRepeated? s)
      else pure none
    match bracketed, s with
    | some (item, rest), _ => return item :: (← readItems rounds rest)
    | none, hyphen :: d :: rest =>
      if hyphen.isSign '-' then
        if d.char < c.char then
          throw ("range-endpoints of '" ++ shownChar c.char ++ "-" ++ shownChar d.char ++
            "' are in reverse collating sequence order")
        return .chars (rangeChars c.char d.char) :: (← readItems rounds rest)
      else return .chars [c.char] :: (← readItems rounds s)
    | none, _ => return .chars [c.char] :: (← readItems rounds s)

/-- Reads a set. -/
def readSet (text : String) : Except String (List Item) :=
  let chars := setChars (text.length + 1) text.toList
  readItems (chars.length + 1) chars

/-- The characters of a part; `fill` is how often a character is repeated that has no count. -/
def Item.expand (fill : Nat) : Item → List Char
  | chars list => list
  | named _ list => list
  | same c => [c]
  | repeated c 0 => List.replicate fill c
  | repeated c count => List.replicate count c

/-- The characters of a set. -/
def expand (fill : Nat) (items : List Item) : List Char :=
  items.flatMap (·.expand fill)

/-- Whether a part is a class of letters of one size. -/
def Item.isSized : Item → Bool
  | named name _ => name == "upper" || name == "lower"
  | _ => false

/-- The places at which classes of letters of one size start. -/
def sizedPlaces (fill : Nat) (items : List Item) : List Nat :=
  (items.foldl (fun (places, place) item =>
    (if item.isSized then place :: places else places, place + (item.expand fill).length))
    (([] : List Nat), 0)).1

/-- Whether a part has no count of its own. -/
def Item.isFilling : Item → Bool
  | repeated _ 0 => true
  | _ => false

/-! ### Translating -/

/-- What is done with characters. -/
structure Rules where
  drops : Char → Bool
  squeezes : Char → Bool
  image : Char → Char

/-- The text that the rules make of another one. -/
def Rules.apply (rules : Rules) (text : List Char) : List Char :=
  (text.foldl (fun written c =>
    if rules.drops c then written
    else
      let d := rules.image c
      if rules.squeezes d && written.head? == some d then written else d :: written) []).reverse

/-- The image of every character, when the characters of one list become those of another; the last
character of the second stands for all that are missing. -/
def imageOf (source target : List Char) (truncated : Bool) : Char → Char :=
  let last := target.getLast?
  let table := (List.range source.length).foldl (fun (table : Array Char) i =>
    match source[i]?, (target[i]?).or (if truncated then none else last) with
    | some c, some d => table.setIfInBounds c.toNat d
    | _, _ => table) allChars.toArray
  fun c => (table[c.toNat]?).getD c

/-- Checks the second set of a translation. -/
def checkTarget (complement truncated : Bool) (first second : List Item) : Except String Unit := do
  let one := expand 0 first
  let fill := one.length - (expand 0 second).length
  let two := expand fill second
  if second.any fun item => match item with
      | .same _ => true
      | _ => false then
    throw "[=c=] expressions may not appear in string2 when translating"
  if 1 < second.countP Item.isFilling then
    throw "only one [c*] repeat construct may appear in string2"
  if second.any fun item => match item with
      | .named _ _ => !item.isSized
      | _ => false then
    throw ("when translating, the only character classes that may appear in\n" ++
      "string2 are 'upper' and 'lower'")
  let places := sizedPlaces 0 first
  if (sizedPlaces fill second).any fun place => !places.contains place then
    throw "misaligned [:upper:] and/or [:lower:] construct"
  if two.length < one.length && !truncated && !complement then
    if two.isEmpty then throw "when not truncating set1, string2 must be non-empty"
    if second.getLast?.any Item.isSized then
      throw ("when translating with string1 longer than string2,\n" ++
        "the latter string must not end with a character class")
  if two.isEmpty && complement && !truncated then
    throw "when not truncating set1, string2 must be non-empty"

/-- What is asked of `tr`. -/
structure Request where
  deletes : Bool
  squeezes : Bool
  complement : Bool
  truncated : Bool

/-- The rules for a request and its sets. -/
def rulesFor (request : Request) (first : List Item) (second : Option (List Item)) :
    Except String Rules := do
  if first.any Item.isFilling then
    throw "the [c*] repeat construct may not appear in string1"
  let plain := expand 0 first
  let inPlain := (plain.foldl (fun (table : Array Bool) c => table.setIfInBounds c.toNat true)
    (Array.replicate 256 false))
  let inFirst (c : Char) : Bool := (inPlain[c.toNat]?).getD false != request.complement
  let source := if request.complement then allChars.filter inFirst else plain
  match second with
  | none =>
    let drops (c : Char) : Bool := request.deletes && inFirst c
    return ⟨drops, fun c => !request.deletes && request.squeezes && inFirst c, fun c => c⟩
  | some items =>
    if request.deletes then
      let target := expand 0 items
      return ⟨inFirst, target.contains, fun c => c⟩
    else
      checkTarget request.complement request.truncated first items
      let target := expand (source.length - (expand 0 items).length) items
      return ⟨fun _ => false, fun c => request.squeezes && target.contains c,
        imageOf source target request.truncated⟩

end UnityBuild.Shell.Utility.Translate

namespace UnityBuild.Shell.Utility

/-- Whether a set ends in a backslash that protects nothing. -/
def endsInBackslash (text : String) : Bool :=
  (text.toList.reverse.takeWhile (· == '\\')).length % 2 == 1

/-- Checks how many sets there are. -/
def checkSetCount (deletes squeezes : Bool) (sets : List String) : ShellM Unit := do
  let least := if deletes == squeezes then 2 else 1
  let most := if deletes && !squeezes then 1 else 2
  match sets with
  | [] => missOperand "tr" ""
  | first :: _ =>
    if sets.length < least then
      missOperand "tr" (" after " ++ quotedName first ++
        (if squeezes then "\nTwo strings must be given when both deleting and squeezing repeats."
          else "\nTwo strings must be given when translating."))
    match sets[most]? with
    | none => pure ()
    | some extra =>
      giveUpWithHelp "tr" ("extra operand " ++ quotedName extra ++
        (if most = 1 && sets.length = 2 then
          "\nOnly one string may be given when deleting without squeezing repeats." else "")) 1

/-- Replaces or drops characters. -/
def tr : Utility := fun _ arguments => do
  let words := [("delete", 'd'), ("squeeze-repeats", 's'), ("complement", 'c'),
    ("truncate-set1", 't')]
  let (options, sets) ← readLeading "tr" 1 "dscCt" words arguments
  let request : Translate.Request := {
    deletes := given options 'd'
    squeezes := given options 's'
    complement := given options 'c' || given options 'C'
    truncated := given options 't' }
  checkSetCount request.deletes request.squeezes sets
  sets.forM fun set => do
    if endsInBackslash set then
      grumble "tr" "warning: an unescaped backslash at end of string is not portable"
  let result := do
    let first ← Translate.readSet (sets.headD "")
    let second ← sets[1]?.mapM Translate.readSet
    Translate.rulesFor request first second
  match result with
  | .error problem => giveUp "tr" problem 1
  | .ok rules =>
    match ← readOperand "-" with
    | .error error => giveUp "tr" ("read error: " ++ error.text) 1
    | .ok text =>
      write (String.ofList (rules.apply text.toList))
      return 0

end UnityBuild.Shell.Utility
