import Mathlib.Algebra.Group.Nat.Defs
import Mathlib.Data.List.Basic
import UnityBuild.Text.Octets

/-!
# Reading bytes as text

Whatever a text is written as is read back. Other bytes can be read too, with a loss: each part that is
not UTF-8 becomes a replacement character. The loss never reaches ASCII: reading keeps the ASCII
characters in their order, and where it gives nothing but ASCII, nothing was lost.

A decoder between two characters takes all bytes of the next one and is between two characters again.
For arbitrary bytes an invariant tells what a decoder has read: what it owes can only be completed to a
character that is not ASCII.

Main statements: `ofOctets_toOctets`, `filter_isAscii_ofOctets` and `ofOctets_eq_self_of_isAscii`.
-/

namespace UnityBuild.Text

/-- ASCII characters are written as one byte. -/
def isAscii (c : Char) : Bool :=
  c.toNat < 0x80

/-- The character of a code has this code. -/
theorem toNat_ofNat (n : Nat) (h : n.isValidChar) : (Char.ofNat n).toNat = n := by
  rw [Char.ofNat, dif_pos h]
  rfl

section Written

/-- A byte is the code of the character that stands for it. -/
theorem toNat_ofNat_byte (b : UInt8) : (Char.ofNat b.toNat).toNat = b.toNat := by
  have hb : b.toNat < 256 := b.toNat_lt
  exact toNat_ofNat b.toNat (.inl (by omega))

/-- The codes of the bytes that a character is written as. -/
theorem codes_charOctets (c : Char) :
    (charOctets c).map Char.toNat = (String.utf8EncodeChar c).map UInt8.toNat := by
  rw [charOctets, List.map_map]
  exact List.map_congr_left fun b _ => toNat_ofNat_byte b

/-- A character that is written as one byte. -/
theorem codes_of_le_one (c : Char) (h : c.toNat ≤ 0x7F) :
    (charOctets c).map Char.toNat = [c.toNat] := by
  have hcode : c.val.toNat ≤ 127 := h
  simp only [codes_charOctets, String.utf8EncodeChar, if_pos hcode, List.map_cons, List.map_nil,
    UInt8.toNat_ofNat', List.cons.injEq, and_true]
  exact Nat.mod_eq_of_lt (by omega)

/-- A character that is written as two bytes. -/
theorem codes_of_le_two (c : Char) (hone : 0x7F < c.toNat) (h : c.toNat ≤ 0x7FF) :
    (charOctets c).map Char.toNat = [c.toNat / 64 + 0xC0, c.toNat % 64 + 0x80] := by
  have hcode : ¬ c.val.toNat ≤ 127 := Nat.not_le_of_lt hone
  have htwo : c.val.toNat ≤ 2047 := h
  simp only [codes_charOctets, String.utf8EncodeChar, if_neg hcode, if_pos htwo, List.map_cons,
    List.map_nil, UInt8.toNat_ofNat', List.cons.injEq, and_true]
  rw [Char.toNat] at *
  omega

/-- A character that is written as three bytes. -/
theorem codes_of_le_three (c : Char) (htwo : 0x7FF < c.toNat) (h : c.toNat ≤ 0xFFFF) :
    (charOctets c).map Char.toNat =
      [c.toNat / 4096 + 0xE0, c.toNat / 64 % 64 + 0x80, c.toNat % 64 + 0x80] := by
  have hone : ¬ c.val.toNat ≤ 127 := Nat.not_le_of_lt (Nat.lt_trans (by decide) htwo)
  have htwo' : ¬ c.val.toNat ≤ 2047 := Nat.not_le_of_lt htwo
  have hthree : c.val.toNat ≤ 65535 := h
  simp only [codes_charOctets, String.utf8EncodeChar, if_neg hone, if_neg htwo', if_pos hthree,
    List.map_cons, List.map_nil, UInt8.toNat_ofNat', List.cons.injEq, and_true]
  rw [Char.toNat] at *
  omega

/-- A character that is written as four bytes. -/
theorem codes_of_four (c : Char) (hthree : 0xFFFF < c.toNat) :
    (charOctets c).map Char.toNat =
      [c.toNat / 262144 + 0xF0, c.toNat / 4096 % 64 + 0x80, c.toNat / 64 % 64 + 0x80,
        c.toNat % 64 + 0x80] := by
  have hone : ¬ c.val.toNat ≤ 127 := Nat.not_le_of_lt (Nat.lt_trans (by decide) hthree)
  have htwo : ¬ c.val.toNat ≤ 2047 := Nat.not_le_of_lt (Nat.lt_trans (by decide) hthree)
  have hthree' : ¬ c.val.toNat ≤ 65535 := Nat.not_le_of_lt hthree
  have hlast : c.val.toNat < 0x110000 := c.valid.elim (fun h => Nat.lt_trans h (by decide)) (·.2)
  simp only [codes_charOctets, String.utf8EncodeChar, if_neg hone, if_neg htwo, if_neg hthree',
    List.map_cons, List.map_nil, UInt8.toNat_ofNat', List.cons.injEq, and_true]
  rw [Char.toNat] at *
  omega

/-- An ASCII character is written as itself. -/
theorem charOctets_of_isAscii (c : Char) (hc : isAscii c = true) : charOctets c = [c] := by
  have hcode : c.val.toNat ≤ 127 := Nat.le_of_lt_succ (of_decide_eq_true hc)
  have hbyte : (UInt8.ofNat c.val.toNat).toNat = c.toNat := by
    rw [UInt8.toNat_ofNat']
    exact Nat.mod_eq_of_lt (by omega)
  rw [charOctets, String.utf8EncodeChar, if_pos hcode, List.map_singleton, hbyte, Char.ofNat_toNat]

/-- Every other character is written as bytes that are no ASCII characters. -/
theorem isAscii_of_mem_charOctets (c d : Char) (hc : isAscii c = false) (hd : d ∈ charOctets c) :
    isAscii d = false := by
  have hcode : 0x7F < c.toNat := Nat.lt_of_succ_le (by simpa [isAscii] using hc)
  have hmem : d.toNat ∈ (charOctets c).map Char.toNat := List.mem_map_of_mem hd
  have hlarge : 0x80 ≤ d.toNat := by
    by_cases htwo : c.toNat ≤ 0x7FF
    · rw [codes_of_le_two c hcode htwo] at hmem
      simp only [List.mem_cons, List.not_mem_nil, or_false] at hmem
      omega
    · by_cases hthree : c.toNat ≤ 0xFFFF
      · rw [codes_of_le_three c (by omega) hthree] at hmem
        simp only [List.mem_cons, List.not_mem_nil, or_false] at hmem
        omega
      · rw [codes_of_four c (by omega)] at hmem
        simp only [List.mem_cons, List.not_mem_nil, or_false] at hmem
        omega
  simpa [isAscii] using hlarge

/-- An ASCII character is a byte of no character but itself. -/
theorem mem_charOctets_iff (c d : Char) (hd : isAscii d = true) : d ∈ charOctets c ↔ d = c := by
  constructor
  · intro hmem
    cases hc : isAscii c with
    | true => rwa [charOctets_of_isAscii c hc, List.mem_singleton] at hmem
    | false =>
      rw [isAscii_of_mem_charOctets c d hc hmem] at hd
      cases hd
  · rintro rfl
    rw [charOctets_of_isAscii d hd]
    exact List.mem_cons_self

/-- Every character is written as some byte. -/
theorem charOctets_ne_nil (c : Char) : charOctets c ≠ [] := by
  intro hnil
  have hlength := congrArg List.length hnil
  rw [charOctets, List.length_map, String.length_utf8EncodeChar, List.length_nil] at hlength
  exact absurd hlength (Nat.ne_of_gt c.utf8Size_pos)

end Written

section Reading

/-- The bits of the first of two bytes. -/
theorem leadBits_one (b : Nat) : leadBits b 1 = b % 32 := rfl

/-- The bits of the first of three bytes. -/
theorem leadBits_two (b : Nat) : leadBits b 2 = b % 16 := rfl

/-- The bits of the first of four bytes. -/
theorem leadBits_three (b : Nat) : leadBits b 3 = b % 8 := rfl

namespace Decoder

/-- A byte within the bounds is taken for what a sequence owes. -/
theorem push_pending (text : String) (bits owed low high b : Nat) (hlow : low ≤ b) (hhigh : b ≤ high) :
    push ⟨text, some ⟨bits, owed, low, high⟩⟩ b =
      if owed = 1 then ⟨text.push (Char.ofNat (bits * 64 + b % 64)), none⟩
      else ⟨text, some ⟨bits * 64 + b % 64, owed - 1, 0x80, 0xBF⟩⟩ := by
  rw [push]
  exact if_pos ⟨hlow, hhigh⟩

/-- A first byte between two characters. -/
theorem push_lead (text : String) (b owed low high : Nat) (h : leadByte b = some (owed, low, high)) :
    push ⟨text, none⟩ b = ⟨text, some ⟨leadBits b owed, owed, low, high⟩⟩ := by
  have hlarge : ¬ b < 0x80 := by
    intro hsmall
    have hnone : leadByte b = none := by
      unfold leadByte
      repeat rw [if_neg (by omega)]
    rw [hnone] at h
    cases h
  rw [push, start, if_neg hlarge, h]

/-- Reading what a character is written as gives the character. -/
theorem foldl_push_charOctets (text : String) (c : Char) :
    ((charOctets c).map Char.toNat).foldl push ⟨text, none⟩ = ⟨text.push c, none⟩ := by
  have hread (n : Nat) (hn : n = c.toNat) : Char.ofNat n = c := by rw [hn, Char.ofNat_toNat]
  have hvalid : c.toNat < 0xD800 ∨ 0xDFFF < c.toNat ∧ c.toNat < 0x110000 := c.valid
  by_cases hone : c.toNat ≤ 0x7F
  · rw [codes_of_le_one c hone, List.foldl_cons, List.foldl_nil, push, start,
      if_pos (Nat.lt_succ_of_le hone), Char.ofNat_toNat]
  by_cases htwo : c.toNat ≤ 0x7FF
  · have hlead : leadByte (c.toNat / 64 + 0xC0) = some (1, 0x80, 0xBF) := by
      rw [leadByte, if_pos (by omega)]
    rw [codes_of_le_two c (by omega) htwo, List.foldl_cons, List.foldl_cons, List.foldl_nil,
      push_lead text _ _ _ _ hlead, push_pending _ _ _ _ _ _ (by omega) (by omega), if_pos rfl,
      hread _ (by rw [leadBits_one]; omega)]
  by_cases hthree : c.toNat ≤ 0xFFFF
  · obtain ⟨low, high, hlead, hlow, hhigh⟩ : ∃ low high,
        leadByte (c.toNat / 4096 + 0xE0) = some (2, low, high) ∧
          low ≤ c.toNat / 64 % 64 + 0x80 ∧ c.toNat / 64 % 64 + 0x80 ≤ high := by
      unfold leadByte
      split_ifs
      all_goals first | omega | exact ⟨_, _, rfl, by omega, by omega⟩
    rw [codes_of_le_three c (by omega) hthree, List.foldl_cons, List.foldl_cons, List.foldl_cons,
      List.foldl_nil, push_lead text _ _ _ _ hlead, push_pending _ _ _ _ _ _ hlow hhigh,
      if_neg (by decide), push_pending _ _ _ _ _ _ (by omega) (by omega), if_pos rfl,
      hread _ (by rw [leadBits_two]; omega)]
  · obtain ⟨low, high, hlead, hlow, hhigh⟩ : ∃ low high,
        leadByte (c.toNat / 262144 + 0xF0) = some (3, low, high) ∧
          low ≤ c.toNat / 4096 % 64 + 0x80 ∧ c.toNat / 4096 % 64 + 0x80 ≤ high := by
      unfold leadByte
      split_ifs
      all_goals first | omega | exact ⟨_, _, rfl, by omega, by omega⟩
    rw [codes_of_four c (by omega), List.foldl_cons, List.foldl_cons, List.foldl_cons,
      List.foldl_cons, List.foldl_nil, push_lead text _ _ _ _ hlead, push_pending _ _ _ _ _ _ hlow hhigh,
      if_neg (by decide), push_pending _ _ _ _ _ _ (by omega) (by omega), if_neg (by decide),
      push_pending _ _ _ _ _ _ (by omega) (by omega), if_pos rfl,
      hread _ (by rw [leadBits_three]; omega)]

/-- Reading what characters are written as gives the characters. -/
theorem foldl_push_flatMap_charOctets (text : String) (s : List Char) :
    ((s.flatMap charOctets).map Char.toNat).foldl push ⟨text, none⟩ =
      ⟨String.ofList (text.toList ++ s), none⟩ := by
  induction s generalizing text with
  | nil => rw [List.append_nil, String.ofList_toList]; rfl
  | cons c s ih =>
    rw [List.flatMap_cons, List.map_append, List.foldl_append, foldl_push_charOctets, ih,
      String.toList_push, List.append_assoc, List.singleton_append]

end Decoder

/-- What a text is written as is read back. -/
@[simp]
theorem ofOctets_toOctets (s : String) : ofOctets (toOctets s) = s := by
  rw [ofOctets, toOctets, String.toList_ofList, decodeCodes, Decoder.foldl_push_flatMap_charOctets]
  exact String.ofList_toList

/-- Different texts are written differently. -/
theorem toOctets_injective : Function.Injective toOctets :=
  Function.LeftInverse.injective ofOctets_toOctets

/-- The bytes of a text are read as this text. -/
@[simp]
theorem readOctets?_toOctets (s : String) : readOctets? (toOctets s) = some s := by
  rw [readOctets?, ofOctets_toOctets, if_pos rfl]

/-- Bytes are read as a text exactly when the text is written as these bytes. -/
theorem readOctets?_eq_some_iff (octets s : String) :
    readOctets? octets = some s ↔ octets = toOctets s := by
  constructor
  · intro h
    rw [readOctets?] at h
    split at h
    · rename_i hwritten
      cases h
      exact hwritten.symm
    · cases h
  · rintro rfl
    exact readOctets?_toOctets s

end Reading

section Loss

/-- What a sequence owes leads to characters that are not ASCII, whichever bytes come. -/
structure PendingSequence.IsSound (p : PendingSequence) : Prop where
  owes : 0 < p.owed
  low : 0x80 ≤ p.low
  high : p.high ≤ 0xBF
  least : 0x80 ≤ (p.bits * 64 + p.low % 64) * 64 ^ (p.owed - 1)
  valid : (p.bits * 64 + p.high % 64 + 1) * 64 ^ (p.owed - 1) ≤ 0xD800 ∨
    0xE000 ≤ (p.bits * 64 + p.low % 64) * 64 ^ (p.owed - 1) ∧
      (p.bits * 64 + p.high % 64 + 1) * 64 ^ (p.owed - 1) ≤ 0x110000

/-- A first byte calls for a sequence that is not ASCII. -/
theorem isSound_of_leadByte (b owed low high : Nat) (h : leadByte b = some (owed, low, high)) :
    PendingSequence.IsSound ⟨leadBits b owed, owed, low, high⟩ := by
  unfold leadByte at h
  split_ifs at h
  all_goals
    simp only [Option.some.injEq, Prod.mk.injEq] at h
    obtain ⟨rfl, rfl, rfl⟩ := h
    constructor
  all_goals
    simp only [leadBits_one, leadBits_two, leadBits_three]
    omega

/-- The last byte of a sequence gives a character that is not ASCII. -/
theorem PendingSequence.IsSound.last {p : PendingSequence} (hp : p.IsSound) (howed : p.owed = 1)
    (b : Nat) (hlow : p.low ≤ b) (hhigh : b ≤ p.high) :
    isAscii (Char.ofNat (p.bits * 64 + b % 64)) = false := by
  obtain ⟨-, hlower, hupper, hleast, hvalid⟩ := hp
  rw [howed, Nat.sub_self, Nat.pow_zero, Nat.mul_one] at hleast hvalid
  rw [Nat.mul_one] at hvalid
  have hcode : (p.bits * 64 + b % 64).isValidChar := by
    unfold Nat.isValidChar
    omega
  simp only [isAscii, toNat_ofNat _ hcode, decide_eq_false_iff_not]
  omega

/-- A byte before the last leaves a sequence that owes one byte less. -/
theorem PendingSequence.IsSound.next {p : PendingSequence} (hp : p.IsSound) (howed : p.owed ≠ 1)
    (b : Nat) (hlow : p.low ≤ b) (hhigh : b ≤ p.high) :
    PendingSequence.IsSound ⟨p.bits * 64 + b % 64, p.owed - 1, 0x80, 0xBF⟩ := by
  obtain ⟨howes, hlower, hupper, hleast, hvalid⟩ := hp
  obtain ⟨further, hfurther⟩ : ∃ further, p.owed = further + 2 := ⟨p.owed - 2, by omega⟩
  -- One byte more is one factor more, so the bounds of the whole sequence stay the same.
  have hfrom (n : Nat) : (n * 64 + 0x80 % 64) * 64 ^ further = n * 64 ^ (further + 1) := by
    rw [Nat.pow_succ', ← Nat.mul_assoc]
    rfl
  have hto (n : Nat) : (n * 64 + 0xBF % 64 + 1) * 64 ^ further = (n + 1) * 64 ^ (further + 1) := by
    rw [Nat.pow_succ', ← Nat.mul_assoc, Nat.add_mul n 1 64]
  have hfirst : (p.bits * 64 + p.low % 64) * 64 ^ (further + 1) ≤
      (p.bits * 64 + b % 64) * 64 ^ (further + 1) := Nat.mul_le_mul_right _ (by omega)
  have hlast : (p.bits * 64 + b % 64 + 1) * 64 ^ (further + 1) ≤
      (p.bits * 64 + p.high % 64 + 1) * 64 ^ (further + 1) := Nat.mul_le_mul_right _ (by omega)
  rw [hfurther] at hleast hvalid ⊢
  have hsucc : further + 2 - 1 = further + 1 := rfl
  rw [hsucc] at hleast hvalid ⊢
  refine ⟨Nat.succ_pos _, Nat.le_refl _, Nat.le_refl _, ?_, ?_⟩
  · simp only [Nat.add_sub_cancel, hfrom]
    omega
  · simp only [Nat.add_sub_cancel, hfrom, hto]
    omega

/-- What a decoder has made of characters that stand for bytes: the ASCII characters are there in
their order, what is owed is sound, and anything that was no ASCII has left a mark. -/
structure Decoder.HasRead (d : Decoder) (s : List Char) : Prop where
  ascii : d.text.toList.filter isAscii = s.filter isAscii
  sound : ∀ p, d.pending = some p → p.IsSound
  marked : (∃ c ∈ s, isAscii c = false) → d.pending.isSome ∨ ∃ c ∈ d.text.toList, isAscii c = false

namespace Decoder.HasRead

variable {d : Decoder} {s : List Char}

/-- A decoder that was given nothing. -/
theorem nil : HasRead ⟨"", none⟩ [] :=
  ⟨rfl, fun _ h => absurd h (by simp), fun ⟨_, hc, _⟩ => absurd hc List.not_mem_nil⟩

/-- A replacement character takes the place of what is owed. -/
theorem replace (h : d.HasRead s) : HasRead ⟨d.text.push replacementChar, none⟩ s where
  ascii := by
    rw [String.toList_push, List.filter_append, h.ascii, List.filter_cons_of_neg (by decide),
      List.filter_nil, List.append_nil]
  sound := fun _ hpending => nomatch hpending
  marked := fun _ => .inr ⟨replacementChar, by simp, by decide⟩

/-- A decoder between two characters takes any character. -/
theorem start {text : String} (h : HasRead ⟨text, none⟩ s) (c : Char) :
    (Decoder.start ⟨text, none⟩ c.toNat).HasRead (s ++ [c]) := by
  by_cases hc : c.toNat < 0x80
  · have hascii : isAscii c = true := decide_eq_true hc
    rw [Decoder.start, if_pos hc, Char.ofNat_toNat]
    refine ⟨?_, (fun _ hpending => nomatch hpending), ?_⟩
    · rw [String.toList_push, List.filter_append, List.filter_append, h.ascii]
    · rintro ⟨d, hd, hmark⟩
      rcases List.mem_append.mp hd with hbefore | hlast
      · rcases h.marked ⟨d, hbefore, hmark⟩ with hpending | ⟨e, he, hfar⟩
        · cases hpending
        · exact .inr ⟨e, by simp [he], hfar⟩
      · rw [List.mem_singleton.mp hlast, hascii] at hmark
        cases hmark
  have hascii : isAscii c = false := decide_eq_false hc
  have hfilter : (s ++ [c]).filter isAscii = s.filter isAscii := by
    rw [List.filter_append, List.filter_cons_of_neg (by simp [hascii]), List.filter_nil,
      List.append_nil]
  rw [Decoder.start, if_neg hc]
  cases hlead : leadByte c.toNat with
  | some bounds =>
    obtain ⟨owed, low, high⟩ := bounds
    refine ⟨by rw [hfilter, ← h.ascii], ?_, fun _ => .inl rfl⟩
    rintro p hpending
    cases hpending
    exact isSound_of_leadByte _ _ _ _ hlead
  | none =>
    obtain ⟨hkept, hsound, -⟩ := h.replace
    exact ⟨by rw [hfilter, ← hkept], hsound, fun _ => .inr ⟨replacementChar, by simp, by decide⟩⟩

/-- A decoder takes any character. -/
theorem push (h : d.HasRead s) (c : Char) : (d.push c.toNat).HasRead (s ++ [c]) := by
  obtain ⟨text, pending⟩ := d
  cases pending with
  | none => exact h.start c
  | some p =>
    obtain ⟨bits, owed, low, high⟩ := p
    have hsound := h.sound _ rfl
    by_cases hin : low ≤ c.toNat ∧ c.toNat ≤ high
    · have hfilter : (s ++ [c]).filter isAscii = text.toList.filter isAscii := by
        have hlow : 0x80 ≤ low := hsound.low
        have hascii : isAscii c = false := decide_eq_false (by omega)
        rw [List.filter_append, List.filter_cons_of_neg (by simp [hascii]), List.filter_nil,
          List.append_nil, ← h.ascii]
      rw [push_pending text bits owed low high _ hin.1 hin.2]
      split
      · rename_i howed
        have hlast := hsound.last howed c.toNat hin.1 hin.2
        refine ⟨?_, (fun _ hpending => nomatch hpending), fun _ => .inr ⟨_, by simp, hlast⟩⟩
        rw [hfilter, String.toList_push, List.filter_append,
          List.filter_cons_of_neg (by simp [hlast]), List.filter_nil, List.append_nil]
      · rename_i howed
        refine ⟨hfilter.symm, ?_, fun _ => .inl rfl⟩
        rintro p hpending
        cases hpending
        exact hsound.next howed c.toNat hin.1 hin.2
    · rw [Decoder.push]
      simp only [if_neg hin]
      exact h.replace.start c

/-- A decoder takes characters one by one. -/
theorem foldl_push (h : d.HasRead s) (further : List Char) :
    ((further.map Char.toNat).foldl Decoder.push d).HasRead (s ++ further) := by
  induction further generalizing d s with
  | nil => rwa [List.append_nil]
  | cons c further ih =>
    rw [List.map_cons, List.foldl_cons, ← List.singleton_append, ← List.append_assoc]
    exact ih (h.push c)

end Decoder.HasRead

/-- What is read of bytes has their ASCII characters in their order. -/
theorem filter_isAscii_ofOctets (s : String) :
    (ofOctets s).toList.filter isAscii = s.toList.filter isAscii := by
  have hread := Decoder.HasRead.nil.foldl_push s.toList
  rw [List.nil_append] at hread
  rw [ofOctets, decodeCodes, Decoder.finish]
  split
  · exact hread.replace.ascii
  · exact hread.ascii

/-- Where nothing but ASCII is read, nothing was lost. -/
theorem ofOctets_eq_self_of_isAscii (s : String) (h : ∀ c ∈ (ofOctets s).toList, isAscii c = true) :
    ofOctets s = s := by
  have hread := Decoder.HasRead.nil.foldl_push s.toList
  rw [List.nil_append] at hread
  have hall : ∀ c ∈ s.toList, isAscii c = true := by
    intro c hc
    by_contra hfar
    have hmark := hread.marked ⟨c, hc, Bool.eq_false_iff.mpr hfar⟩
    rw [ofOctets, decodeCodes, Decoder.finish] at h
    split at h
    · exact absurd (h replacementChar (by simp)) (by decide)
    · rename_i hpending
      obtain ⟨e, he, hlost⟩ := hmark.resolve_left hpending
      rw [h e he] at hlost
      cases hlost
  have hsame := filter_isAscii_ofOctets s
  rw [List.filter_eq_self.mpr h, List.filter_eq_self.mpr hall] at hsame
  exact String.toList_inj.mp hsame

/-- A text of ASCII characters is written as itself. -/
theorem toOctets_of_isAscii (s : String) (h : ∀ c ∈ s.toList, isAscii c = true) : toOctets s = s := by
  have hchars (s : List Char) (h : ∀ c ∈ s, isAscii c = true) : s.flatMap charOctets = s := by
    induction s with
    | nil => rfl
    | cons c s ih =>
      obtain ⟨hc, hrest⟩ := List.forall_mem_cons.mp h
      rw [List.flatMap_cons, charOctets_of_isAscii c hc, ih hrest, List.singleton_append]
  rw [toOctets, hchars s.toList h, String.ofList_toList]

/-- Bytes that are read as a text of ASCII characters are this text. -/
theorem eq_of_ofOctets_eq (s t : String) (ht : ∀ c ∈ t.toList, isAscii c = true)
    (h : ofOctets s = t) : s = t := by
  rw [← h, ofOctets_eq_self_of_isAscii s (h ▸ ht)]

/-- An ASCII character is written in what a text is written as exactly when the text has it. -/
theorem mem_toOctets_iff (c : Char) (hc : isAscii c = true) (s : String) :
    c ∈ (toOctets s).toList ↔ c ∈ s.toList := by
  rw [toOctets, String.toList_ofList, List.mem_flatMap]
  simp only [mem_charOctets_iff _ c hc, exists_eq_right']

/-- An ASCII character is read exactly when its byte is there. -/
theorem mem_ofOctets_iff (c : Char) (hc : isAscii c = true) (s : String) :
    c ∈ (ofOctets s).toList ↔ c ∈ s.toList := by
  have hmem := congrArg (c ∈ ·) (filter_isAscii_ofOctets s)
  simpa only [List.mem_filter, hc, and_true, eq_iff_iff] using hmem

end Loss

end UnityBuild.Text
