import UnityBuild.Json.Value

/-!
# Printing JSON

Values are printed over several lines with four blanks for each level. A list or an object
without members is printed as its two brackets. In a string only the quote, the backslash and the
controls are escaped.
-/

namespace UnityBuild.Json

/-- The escape of a control by its code point, with four hexadecimal digits. -/
def controlEscape (c : Char) : List Char :=
  ['\\', 'u', '0', '0', Nat.digitChar (c.toNat / 16), Nat.digitChar (c.toNat % 16)]

/-- How one character is written inside a string. -/
def escapeChar (c : Char) : List Char :=
  if c = '"' then ['\\', '"']
  else if c = '\\' then ['\\', '\\']
  else if c = '\x08' then ['\\', 'b']
  else if c = '\x0c' then ['\\', 'f']
  else if c = '\n' then ['\\', 'n']
  else if c = '\r' then ['\\', 'r']
  else if c = '\t' then ['\\', 't']
  else if c.toNat < 0x20 then controlEscape c
  else [c]

/-- A string between its quotes. -/
def writeString (s : String) : List Char :=
  '"' :: (s.toList.flatMap escapeChar ++ ['"'])

/-- A line feed and the blanks of a level. -/
def newline (level : Nat) : List Char :=
  '\n' :: List.replicate (4 * level) ' '

mutual

/-- The text of a value whose first line stands at a level. -/
def write (level : Nat) : Value → List Char
  | .null => "null".toList
  | .bool value => if value then "true".toList else "false".toList
  | .number value => value.text
  | .string value => writeString value
  | .array [] => ['[', ']']
  | .array (item :: items) =>
    '[' :: newline (level + 1) ++ write (level + 1) item ++ writeItems (level + 1) items
      ++ newline level ++ [']']
  | .object [] => ['{', '}']
  | .object ((name, value) :: fields) =>
    '{' :: newline (level + 1) ++ writeString name ++ [':', ' '] ++ write (level + 1) value
      ++ writeFields (level + 1) fields ++ newline level ++ ['}']

/-- The further items of a list, each behind a comma. -/
def writeItems (level : Nat) : List Value → List Char
  | [] => []
  | item :: items => ',' :: newline level ++ write level item ++ writeItems level items

/-- The further fields of an object, each behind a comma. -/
def writeFields (level : Nat) : List (String × Value) → List Char
  | [] => []
  | (name, value) :: fields =>
    ',' :: newline level ++ writeString name ++ [':', ' '] ++ write level value
      ++ writeFields level fields

end

/-- The text of a whole document. -/
def Value.pretty (v : Value) : String :=
  String.ofList (write 0 v)

end UnityBuild.Json
