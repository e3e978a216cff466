/-!
# Reading from the front of a text

A reader takes a value from the front of a text and gives back the rest, or fails. The readers of
all formats share the fixed texts, the hexadecimal digits and the escapes of this module.
-/

namespace UnityBuild.Text

/-- Takes a value from the front of a text. -/
abbrev Reader (α : Type) := List Char → Option (α × List Char)

/-- Maps the result of a reader. -/
def mapReader {α β : Type} (f : α → β) (reader : Reader α) : Reader β := fun s =>
  (reader s).map fun (result, rest) => (f result, rest)

/-- What follows a text at the start of another. -/
def after? : List Char → List Char → Option (List Char)
  | [], s => some s
  | _ :: _, [] => none
  | a :: literal, c :: s => if a = c then after? literal s else none

/-- What follows the first of some texts that another starts with. -/
def afterAny? (literals : List String) (s : List Char) : Option (List Char) :=
  literals.findSome? fun literal => after? literal.toList s

/-- The value of a hexadecimal digit. -/
def hexValue? (c : Char) : Option Nat :=
  if '0' ≤ c ∧ c ≤ '9' then some (c.toNat - '0'.toNat)
  else if 'a' ≤ c ∧ c ≤ 'f' then some (c.toNat - 'a'.toNat + 10)
  else if 'A' ≤ c ∧ c ≤ 'F' then some (c.toNat - 'A'.toNat + 10)
  else none

/-- The number that hexadecimal digits write. -/
def hexNumber? (digits : List Char) : Option Nat :=
  digits.foldlM (fun n c => (hexValue? c).map (n * 16 + ·)) 0

/-- The character of an escape by one letter. -/
def escapedChar? (c : Char) : Option Char :=
  if c = '"' ∨ c = '\\' then some c
  else if c = 'b' then some '\x08'
  else if c = 'f' then some '\x0c'
  else if c = 'n' then some '\n'
  else if c = 'r' then some '\r'
  else if c = 't' then some '\t'
  else none

end UnityBuild.Text
