/-!
# Bytes as text

A file or a stream holds bytes. `decode?` reads them as UTF-8 and fails when they are not;
`decodeLossy` reads what it can and puts one replacement character for every maximal part of a
broken sequence, as the standard recommends.
-/

namespace UnityBuild.Text

/-- Stands for bytes that are not UTF-8. -/
def replacementChar : Char := '\uFFFD'

/-- The text that bytes hold, if they are UTF-8. -/
def decode? (bytes : ByteArray) : Option String :=
  String.fromUTF8? bytes

/-- The bytes of a text. -/
def encode (s : String) : ByteArray :=
  s.toUTF8

/-- The continuation bytes that a first byte calls for: how many, and the bounds of the next
one. Bytes that start no sequence have none. -/
def leadByte (b : Nat) : Option (Nat × Nat × Nat) :=
  if 0xC2 ≤ b ∧ b ≤ 0xDF then some (1, 0x80, 0xBF)
  else if b = 0xE0 then some (2, 0xA0, 0xBF)
  else if b = 0xED then some (2, 0x80, 0x9F)
  else if 0xE1 ≤ b ∧ b ≤ 0xEF then some (2, 0x80, 0xBF)
  else if b = 0xF0 then some (3, 0x90, 0xBF)
  else if b = 0xF4 then some (3, 0x80, 0x8F)
  else if 0xF1 ≤ b ∧ b ≤ 0xF3 then some (3, 0x80, 0xBF)
  else none

/-- What has been read of a sequence that is not complete: its bits so far, how many
continuation bytes are owed, and the bounds of the next one. -/
structure PendingSequence where
  bits : Nat
  owed : Nat
  low : Nat
  high : Nat

/-- The bits that a first byte contributes when `owed` continuation bytes follow. -/
def leadBits (b owed : Nat) : Nat :=
  b % Nat.pow 2 (6 - owed)

/-- What has been decoded: the text so far, and the sequence that it left open. -/
structure Decoder where
  text : String
  pending : Option PendingSequence

namespace Decoder

/-- Takes a byte that starts a character. -/
def start (d : Decoder) (b : Nat) : Decoder :=
  if b < 0x80 then ⟨d.text.push (Char.ofNat b), none⟩
  else match leadByte b with
    | some (owed, low, high) => ⟨d.text, some ⟨leadBits b owed, owed, low, high⟩⟩
    | none => ⟨d.text.push replacementChar, none⟩

/-- Takes the next byte. -/
def push (d : Decoder) (b : Nat) : Decoder :=
  match d.pending with
  | none => d.start b
  | some p =>
    if p.low ≤ b ∧ b ≤ p.high then
      let bits := p.bits * 64 + b % 64
      if p.owed = 1 then ⟨d.text.push (Char.ofNat bits), none⟩
      else ⟨d.text, some ⟨bits, p.owed - 1, 0x80, 0xBF⟩⟩
    else start ⟨d.text.push replacementChar, none⟩ b

/-- The text when no byte is left. -/
def finish (d : Decoder) : String :=
  if d.pending.isSome then d.text.push replacementChar else d.text

end Decoder

/-- The text that the codes of bytes write, with a replacement character for what is not UTF-8. -/
def decodeCodes (codes : List Nat) : String :=
  (codes.foldl Decoder.push ⟨"", none⟩).finish

/-- The text of bytes, with a replacement character for what is not UTF-8. -/
def decodeLossy (bytes : ByteArray) : String :=
  decodeCodes (bytes.data.toList.map UInt8.toNat)

end UnityBuild.Text
