import UnityBuild.Text.Utf8

/-!
# Texts of bytes

Programs hand each other bytes, and not all bytes are UTF-8. A text of bytes has one character for
every byte, the one with the byte's value as its code. ASCII texts are the same either way.
-/

namespace UnityBuild.Text

/-- The text of bytes in which every byte is a character. -/
def ofBytes (bytes : ByteArray) : String :=
  String.ofList (bytes.toList.map fun b => Char.ofNat b.toNat)

/-- The bytes that the characters of a text of bytes stand for. -/
def toBytes (s : String) : ByteArray :=
  ⟨(s.toList.map fun c => UInt8.ofNat c.toNat).toArray⟩

/-- The bytes that a character is written as, each as a character. -/
def charOctets (c : Char) : List Char :=
  (String.utf8EncodeChar c).map fun b => Char.ofNat b.toNat

/-- The text of bytes that a text is written as. -/
def toOctets (s : String) : String :=
  String.ofList (s.toList.flatMap charOctets)

/-- The text that a text of bytes writes, with a replacement character for what is not UTF-8. -/
def ofOctets (s : String) : String :=
  decodeCodes (s.toList.map Char.toNat)

/-- The text that a text of bytes writes, if it is UTF-8. -/
def readOctets? (s : String) : Option String :=
  if toOctets (ofOctets s) = s then some (ofOctets s) else none

end UnityBuild.Text
