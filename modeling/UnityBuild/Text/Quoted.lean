import UnityBuild.Text.Printable

/-!
# Quoted texts in messages

A message shows a text between double quotes. The quote, the backslash and four controls have
short escapes; a character without a printed form, or one that would join the character before
it, is written by its code point in hexadecimal. An apostrophe stands for itself.
-/

namespace UnityBuild.Text

/-- The escape that names a character by its code point. -/
def codeEscape (c : Char) : List Char :=
  ['\\', 'u', '{'] ++ Nat.toDigits 16 c.toNat ++ ['}']

/-- How one character is written inside quotes. -/
def quoteChar (c : Char) : List Char :=
  if c = '\x00' then ['\\', '0']
  else if c = '\t' then ['\\', 't']
  else if c = '\r' then ['\\', 'r']
  else if c = '\n' then ['\\', 'n']
  else if c = '"' then ['\\', '"']
  else if c = '\\' then ['\\', '\\']
  else if isExtending c || !isPrintable c then codeEscape c
  else [c]

/-- A text between double quotes. -/
def quoted (s : String) : String :=
  String.ofList (['"'] ++ s.toList.flatMap quoteChar ++ ['"'])

end UnityBuild.Text
