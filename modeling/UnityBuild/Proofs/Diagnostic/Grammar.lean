import Mathlib.Computability.Language
import UnityBuild.Diagnostic.Collision
import UnityBuild.Proofs.Naming
import UnityBuild.Proofs.Text.Front

/-!
# The grammar of messages about clashing names

A message about a clash starts with a sentence of a regular language: the word for the clash, what
kind of name it is, and the name in quotes, perhaps with a tag. Parts of a sentence overlap: a name
may be spelled like a tag, and a tag ends where blanks begin. Still every message starts with at
most one sentence, and the name in it is what the message is read as reporting. Nothing behind the
sentence counts.

Main statement: `collisionIdentifier?_eq_some_iff_reports`.
-/

namespace UnityBuild.Diagnostic

open scoped Computability

namespace Grammar

/-- A fixed word. -/
def word (text : String) : Language Char :=
  {text.toList}

/-- One character of a class. -/
def oneOf (p : Char → Bool) : Language Char :=
  {s | ∃ c, p c = true ∧ s = [c]}

/-- A letter of the basic alphabet, or the underscore. -/
def isLetter (c : Char) : Bool :=
  ('A' ≤ c && c ≤ 'Z') || ('a' ≤ c && c ≤ 'z') || c == '_'

/-- A decimal digit. -/
def isDecimal (c : Char) : Bool :=
  '0' ≤ c && c ≤ '9'

/-- A letter and any letters and digits behind it. -/
def identifier : Language Char :=
  oneOf isLetter * (oneOf fun c => isLetter c || isDecimal c)∗

/-- A quote of any kind; the closing quote need not be of the kind of the opening one. -/
def quote : Language Char :=
  oneOf fun c => c == '\'' || c == '‘' || c == '’' || c == '"' || c == '\x60'

/-- What kind of type a name is the tag of, with the blanks behind it. -/
def tag : Language Char :=
  (word "struct" + word "union" + word "enum") * (oneOf Text.isBlank * (oneOf Text.isBlank)∗)

/-- A name in quotes, with or without a tag. -/
def quoted (name : List Char) : Language Char :=
  quote * ((1 + tag) * ({name} * quote))

/-- What kind of name it is, with the blank behind it. -/
def qualifier : Language Char :=
  (word "typedef" + word "enumerator") * word " "

/-- What a clash is called, up to the name that clashes. -/
def clash : Language Char :=
  (word "redefinition" + word "redeclaration") * word " of "

/-- The sentences that report a clash of a name. -/
def sentence (name : List Char) : Language Char :=
  clash * ((1 + qualifier) * quoted name)

/-- A message reports an identifier when it starts, behind any blanks, with a sentence that does. -/
def Reports (message name : String) : Prop :=
  name.toList ∈ identifier ∧
    ∃ s ∈ sentence name.toList, s <+: Text.trim message.toList

end Grammar

namespace Grammar

section Classes

/-- A text of a starred class holds characters of the class alone. -/
theorem mem_kstar_oneOf (p : Char → Bool) (s : List Char) :
    s ∈ (oneOf p)∗ ↔ ∀ c ∈ s, p c = true := by
  rw [Language.mem_kstar]
  constructor
  · rintro ⟨parts, rfl, hparts⟩ c hc
    obtain ⟨part, hpart, hc⟩ := List.mem_flatten.mp hc
    obtain ⟨d, hd, rfl⟩ := hparts part hpart
    rw [List.mem_singleton.mp hc]
    exact hd
  · intro h
    refine ⟨s.map fun c => [c], ?_, ?_⟩
    · rw [← List.flatMap_def, List.flatMap_singleton']
    · intro part hpart
      obtain ⟨c, hc, rfl⟩ := List.mem_map.mp hpart
      exact ⟨c, h c hc, rfl⟩

/-- One character of a class and any of another behind it. -/
theorem mem_oneOf_mul_kstar (p p' : Char → Bool) (s : List Char) :
    s ∈ oneOf p * (oneOf p')∗ ↔ ∃ c s', s = c :: s' ∧ p c = true ∧ ∀ d ∈ s', p' d = true := by
  rw [Language.mem_mul]
  constructor
  · rintro ⟨_, ⟨c, hc, rfl⟩, s', hs', rfl⟩
    exact ⟨c, s', rfl, hc, (mem_kstar_oneOf p' s').mp hs'⟩
  · rintro ⟨c, s', rfl, hc, hs'⟩
    exact ⟨[c], ⟨c, hc, rfl⟩, s', (mem_kstar_oneOf p' s').mpr hs', rfl⟩

/-- Identifiers start with the letters of the grammar. -/
theorem isIdentifierStart_eq (c : Char) : Naming.isIdentifierStart c = isLetter c := by
  have hupper : c.isUpper = ('A' ≤ c && c ≤ 'Z') := Bool.decide_and _ _
  have hlower : c.isLower = ('a' ≤ c && c ≤ 'z') := rfl
  rw [isLetter, ← hupper, ← hlower]
  rfl

/-- Identifiers go on with the letters and digits of the grammar. -/
theorem isIdentifierRest_eq (c : Char) :
    Naming.isIdentifierRest c = (isLetter c || isDecimal c) := by
  rw [Naming.isIdentifierRest, isIdentifierStart_eq]
  rfl

/-- The identifiers of the grammar are those that are known. -/
theorem mem_identifier_iff (name : List Char) :
    name ∈ identifier ↔ Naming.isIdentifierChars name = true := by
  rw [identifier, mem_oneOf_mul_kstar]
  cases name with
  | nil => simp [Naming.isIdentifierChars]
  | cons c s =>
    simp only [Naming.isIdentifierChars, isIdentifierStart_eq, isIdentifierRest_eq, Bool.and_eq_true,
      List.all_eq_true, List.cons.injEq]
    constructor
    · rintro ⟨_, _, ⟨rfl, rfl⟩, hc, hs⟩
      exact ⟨hc, hs⟩
    · rintro ⟨hc, hs⟩
      exact ⟨c, s, ⟨rfl, rfl⟩, hc, hs⟩

/-- The quotes of the grammar are those that are known. -/
theorem mem_quote_iff (s : List Char) : s ∈ quote ↔ ∃ c, isQuote c = true ∧ s = [c] := by
  apply exists_congr
  intro c
  simp [isQuote, quoteChars, or_assoc]

/-- A tag is one of the tag words with a blank and any more blanks behind it. -/
theorem mem_tag_iff (s : List Char) :
    s ∈ tag ↔ ∃ w ∈ tagWords, ∃ c blanks, Text.isBlank c = true ∧
      (∀ d ∈ blanks, Text.isBlank d = true) ∧ s = w.toList ++ c :: blanks := by
  have hwords : ∀ t, t ∈ word "struct" + word "union" + word "enum" ↔ ∃ w ∈ tagWords, t = w.toList := by
    intro t
    simp only [Language.mem_add, word, tagWords, List.mem_cons, List.not_mem_nil, or_false,
      exists_eq_or_imp, exists_eq_left, or_assoc]
    rfl
  rw [tag, Language.mem_mul]
  constructor
  · rintro ⟨t, ht, b, hb, rfl⟩
    obtain ⟨w, hw, rfl⟩ := (hwords t).mp ht
    obtain ⟨c, blanks, rfl, hc, hblanks⟩ := (mem_oneOf_mul_kstar _ _ b).mp hb
    exact ⟨w, hw, c, blanks, hc, hblanks, rfl⟩
  · rintro ⟨w, hw, c, blanks, hc, hblanks, rfl⟩
    exact ⟨w.toList, (hwords _).mpr ⟨w, hw, rfl⟩, c :: blanks,
      (mem_oneOf_mul_kstar _ _ _).mpr ⟨c, blanks, rfl, hc, hblanks⟩, rfl⟩

/-- Either of two words with a third one behind it. -/
theorem mem_add_mul_word (a b c : String) (s : List Char) :
    s ∈ (word a + word b) * word c ↔ s = (a ++ c).toList ∨ s = (b ++ c).toList := by
  simp only [Language.mem_mul, Language.mem_add, String.toList_append]
  constructor
  · rintro ⟨_, rfl | rfl, _, rfl, rfl⟩
    · exact .inl rfl
    · exact .inr rfl
  · rintro (rfl | rfl)
    · exact ⟨_, .inl rfl, _, rfl, rfl⟩
    · exact ⟨_, .inr rfl, _, rfl, rfl⟩

/-- A qualifier is one of the words that are known to stand in front of quotes. -/
theorem mem_qualifier_iff (s : List Char) : s ∈ qualifier ↔ ∃ w ∈ outerWords, s = w.toList := by
  rw [qualifier, mem_add_mul_word]
  simp only [outerWords, List.exists_mem_cons_iff, List.not_mem_nil, false_and, exists_false, or_false]
  rfl

/-- What a clash is called is one of the words that are known for it. -/
theorem mem_clash_iff (s : List Char) : s ∈ clash ↔ ∃ w ∈ clashWords, s = w.toList := by
  rw [clash, mem_add_mul_word]
  simp only [clashWords, List.exists_mem_cons_iff, List.not_mem_nil, false_and, exists_false, or_false]
  rfl

/-- A quoted name is a quote, perhaps a tag, the name and another quote. -/
theorem mem_quoted_iff (name s : List Char) :
    s ∈ quoted name ↔ ∃ q t q', isQuote q = true ∧ t ∈ 1 + tag ∧ isQuote q' = true ∧
      s = q :: (t ++ (name ++ [q'])) := by
  simp only [quoted, Language.mem_mul, mem_quote_iff]
  constructor
  · rintro ⟨_, ⟨q, hq, rfl⟩, _, ⟨t, ht, _, ⟨_, rfl, _, ⟨q', hq', rfl⟩, rfl⟩, rfl⟩, rfl⟩
    exact ⟨q, t, q', hq, ht, hq', rfl⟩
  · rintro ⟨q, t, q', hq, ht, hq', rfl⟩
    exact ⟨[q], ⟨q, hq, rfl⟩, _, ⟨t, ht, _, ⟨name, rfl, [q'], ⟨q', hq', rfl⟩, rfl⟩, rfl⟩, rfl⟩

end Classes

end Grammar

open Grammar

section Ends

/-- A blank belongs to no identifier. -/
theorem isIdentifierRest_of_isBlank (c : Char) (hc : Text.isBlank c = true) :
    Naming.isIdentifierRest c = false := by
  have houtside : ∀ range ∈ Text.blankRanges, range.2 < '0'.toNat ∨ 'z'.toNat < range.1 := by decide
  obtain ⟨range, hrange, hlow, hhigh⟩ := (Text.inRanges_iff _ c).mp hc
  apply Bool.eq_false_iff.mpr
  intro hrest
  obtain ⟨hfirst, hlast⟩ := Naming.toNat_of_isIdentifierRest c hrest
  rcases houtside range hrange with h | h
  · exact absurd (Nat.le_trans hfirst hhigh) (Nat.not_le.mpr h)
  · exact absurd (Nat.le_trans hlow hlast) (Nat.not_le.mpr h)

/-- A quote belongs to no identifier. -/
theorem isIdentifierRest_of_isQuote (c : Char) (hc : isQuote c = true) :
    Naming.isIdentifierRest c = false := by
  have hall : (quoteChars.all fun c => !Naming.isIdentifierRest c) = true := rfl
  simpa using List.all_eq_true.mp hall c (List.contains_iff_mem.mp hc)

/-- A quote is no blank. -/
theorem isBlank_of_isQuote (c : Char) (hc : isQuote c = true) : Text.isBlank c = false := by
  have hall : (quoteChars.all fun c => !Text.isBlank c) = true := rfl
  simpa using List.all_eq_true.mp hall c (List.contains_iff_mem.mp hc)

end Ends

section Parts

variable (s name : List Char)

/-- The identifier in front of a closing quote. -/
theorem quotedIdentifier?_eq_some_iff :
    quotedIdentifier? s = some name ↔
      Naming.isIdentifierChars name = true ∧ ∃ q rest, isQuote q = true ∧ s = name ++ q :: rest := by
  constructor
  · intro h
    unfold quotedIdentifier? at h
    dsimp only at h
    split at h
    · rename_i q rest hrest
      split at h
      · rename_i hboth
        obtain ⟨hname, hq⟩ := Bool.and_eq_true_iff.mp hboth
        cases h
        refine ⟨hname, q, rest, hq, ?_⟩
        rw [← hrest, List.takeWhile_append_dropWhile]
      · cases h
    · cases h
  · rintro ⟨hname, q, rest, hq, rfl⟩
    obtain ⟨htake, hdrop⟩ := Text.takeWhile_append_cons Naming.isIdentifierRest name rest q
      (Naming.isIdentifierRest_of_mem name hname) (isIdentifierRest_of_isQuote q hq)
    simp only [quotedIdentifier?, htake, hdrop, hname, hq, Bool.and_self, if_true]

/-- What follows a tag word and blanks. -/
theorem afterTag?_eq_some_iff (rest : List Char) :
    afterTag? s = some rest ↔ ∃ w ∈ tagWords, ∃ c s', Text.isBlank c = true ∧
      s = w.toList ++ c :: s' ∧ rest = Text.trimStart s' := by
  have hfree : Text.PrefixFree tagWords := by decide
  constructor
  · intro h
    unfold afterTag? at h
    split at h
    · rename_i c s' hfound
      split at h
      · rename_i hc
        cases h
        obtain ⟨w, hw, hs⟩ := (Text.afterAny?_eq_some_iff tagWords hfree _ _).mp hfound
        exact ⟨w, hw, c, s', hc, hs, rfl⟩
      · cases h
    · cases h
  · rintro ⟨w, hw, c, s', hc, hs, rfl⟩
    rw [afterTag?, (Text.afterAny?_eq_some_iff tagWords hfree _ _).mpr ⟨w, hw, hs⟩]
    simp only [hc, if_true]

/-- What stands in front of what a tag leaves is a tag or nothing. -/
theorem exists_tag : ∃ t ∈ 1 + tag, s = t ++ (afterTag? s).getD s := by
  cases hafter : afterTag? s with
  | none => exact ⟨[], .inl rfl, rfl⟩
  | some rest =>
    obtain ⟨w, hw, c, s', hc, hs, rfl⟩ := (afterTag?_eq_some_iff s rest).mp hafter
    refine ⟨w.toList ++ c :: s'.takeWhile Text.isBlank, .inr ?_, ?_⟩
    · exact (mem_tag_iff _).mpr ⟨w, hw, c, _, hc, fun d hd => List.mem_takeWhile_imp hd, rfl⟩
    · rw [Option.getD_some, hs, List.append_assoc, List.cons_append, Text.trimStart,
        List.takeWhile_append_dropWhile]

/-- A tag in front of an identifier and its closing quote is passed over, and nothing else is. -/
theorem getD_afterTag? (t : List Char) (ht : t ∈ 1 + tag) (q : Char) (rest : List Char)
    (hname : Naming.isIdentifierChars name = true) (hq : isQuote q = true) :
    (afterTag? (t ++ (name ++ q :: rest))).getD (t ++ (name ++ q :: rest)) = name ++ q :: rest := by
  have hrun := Naming.isIdentifierRest_of_mem name hname
  rcases ht with rfl | ht
  · -- Without a tag, a name that is spelled like a tag word is followed by a quote and no blank.
    have hnone : afterTag? (name ++ q :: rest) = none := by
      apply Option.eq_none_iff_forall_ne_some.mpr
      intro left hleft
      obtain ⟨w, hw, c, s', hc, hs, -⟩ := (afterTag?_eq_some_iff _ _).mp hleft
      have htag : (tagWords.all fun w => w.toList.all Naming.isIdentifierRest) = true := rfl
      have hword := List.all_eq_true.mp (List.all_eq_true.mp htag w hw)
      obtain ⟨-, rfl, -⟩ := Text.append_cons_inj Naming.isIdentifierRest name w.toList rest s' q c
        hrun hword (isIdentifierRest_of_isQuote q hq) (isIdentifierRest_of_isBlank c hc) hs
      rw [isBlank_of_isQuote q hq] at hc
      cases hc
    rw [List.nil_append, hnone, Option.getD_none]
  · obtain ⟨w, hw, c, blanks, hc, hblanks, rfl⟩ := (mem_tag_iff t).mp ht
    have hafter := (afterTag?_eq_some_iff (w.toList ++ c :: (blanks ++ (name ++ q :: rest))) _).mpr
      ⟨w, hw, c, _, hc, rfl, rfl⟩
    rw [List.append_assoc, List.cons_append, hafter, Option.getD_some, Text.trimStart,
      List.dropWhile_append_of_pos hblanks]
    cases name with
    | nil => cases hname
    | cons d name =>
      have hd : Text.isBlank d = false := by
        apply Bool.eq_false_iff.mpr
        intro hblank
        have hrest := hrun d List.mem_cons_self
        rw [isIdentifierRest_of_isBlank d hblank] at hrest
        cases hrest
      rw [List.cons_append, List.dropWhile_cons_of_neg (by simp [hd])]

/-- What stands in front of what a qualifier leaves is a qualifier or nothing. -/
theorem exists_qualifier :
    ∃ t ∈ 1 + qualifier, s = t ++ (Text.afterAny? outerWords s).getD s := by
  have hfree : Text.PrefixFree outerWords := by decide
  cases hafter : Text.afterAny? outerWords s with
  | none => exact ⟨[], .inl rfl, rfl⟩
  | some rest =>
    obtain ⟨w, hw, hs⟩ := (Text.afterAny?_eq_some_iff outerWords hfree s rest).mp hafter
    exact ⟨w.toList, .inr ((mem_qualifier_iff _).mpr ⟨w, hw, rfl⟩), hs⟩

/-- A qualifier in front of an opening quote is passed over, and nothing else is. -/
theorem getD_afterAny?_outerWords (t : List Char) (ht : t ∈ 1 + qualifier) (q : Char)
    (rest : List Char) (hq : isQuote q = true) :
    (Text.afterAny? outerWords (t ++ q :: rest)).getD (t ++ q :: rest) = q :: rest := by
  have hfree : Text.PrefixFree outerWords := by decide
  rcases ht with rfl | ht
  · have hnone : Text.afterAny? outerWords (q :: rest) = none := by
      apply Option.eq_none_iff_forall_ne_some.mpr
      intro left hleft
      obtain ⟨w, hw, hs⟩ := (Text.afterAny?_eq_some_iff outerWords hfree _ _).mp hleft
      have hword : ∀ w ∈ outerWords, w.toList.head?.map isQuote = some false := by decide
      obtain ⟨d, hd, hquote⟩ := Option.map_eq_some_iff.mp (hword w hw)
      obtain ⟨w', hw'⟩ := List.head?_eq_some_iff.mp hd
      rw [hw', List.cons_append] at hs
      rw [(List.cons.inj hs).1, hquote] at hq
      cases hq
    rw [List.nil_append, hnone, Option.getD_none]
  · obtain ⟨w, hw, rfl⟩ := (mem_qualifier_iff t).mp ht
    rw [(Text.afterAny?_eq_some_iff outerWords hfree _ _).mpr ⟨w, hw, rfl⟩, Option.getD_some]

/-- The identifier behind an opening quote is the name in a quoted part that the text starts
with. -/
theorem nameInQuotes?_eq_some_iff :
    nameInQuotes? s = some name ↔ name ∈ identifier ∧ ∃ text ∈ quoted name, text <+: s := by
  rw [mem_identifier_iff]
  constructor
  · intro h
    unfold nameInQuotes? at h
    split at h
    · rename_i q s
      split at h
      · rename_i hq
        obtain ⟨t, ht, hs⟩ := exists_tag s
        obtain ⟨hname, q', rest, hq', hrest⟩ := (quotedIdentifier?_eq_some_iff _ name).mp h
        rw [hrest] at hs
        refine ⟨hname, _, (mem_quoted_iff name _).mpr ⟨q, t, q', hq, ht, hq', rfl⟩, rest, ?_⟩
        rw [hs, List.cons_append, List.append_assoc, List.append_assoc, List.singleton_append]
      · cases h
    · cases h
  · rintro ⟨hname, text, htext, rest, rfl⟩
    obtain ⟨q, t, q', hq, ht, hq', rfl⟩ := (mem_quoted_iff name text).mp htext
    have hpassed := getD_afterTag? name t ht q' rest hname hq'
    simp only [List.cons_append, List.append_assoc, List.nil_append, nameInQuotes?, hq, if_true,
      hpassed]
    exact (quotedIdentifier?_eq_some_iff _ name).mpr ⟨hname, q', rest, hq', rfl⟩

end Parts

/-- A message is read in three steps: the clash, a qualifier if there is one, and the quoted
name. -/
theorem collisionIdentifier?_eq_some_iff_steps (message name : String) :
    collisionIdentifier? message = some name ↔
      ∃ s, Text.afterAny? clashWords (Text.trim message.toList) = some s ∧
        nameInQuotes? ((Text.afterAny? outerWords s).getD s) = some name.toList := by
  simp only [collisionIdentifier?, bind, Option.bind_eq_some_iff, pure, Option.some.injEq]
  constructor
  · rintro ⟨s, hclash, chars, hquoted, rfl⟩
    exact ⟨s, hclash, by rw [hquoted, String.toList_ofList]⟩
  · rintro ⟨s, hclash, hquoted⟩
    exact ⟨s, hclash, name.toList, hquoted, String.ofList_toList⟩

/-- What a message is read as reporting is the name in the sentence that it starts with. -/
theorem collisionIdentifier?_eq_some_iff (message name : String) :
    collisionIdentifier? message = some name ↔ Reports message name := by
  have hfree : Text.PrefixFree clashWords := by decide
  rw [collisionIdentifier?_eq_some_iff_steps]
  constructor
  · rintro ⟨s, hclash, hquoted⟩
    obtain ⟨w, hw, hs⟩ := (Text.afterAny?_eq_some_iff clashWords hfree _ _).mp hclash
    obtain ⟨t, ht, hqualified⟩ := exists_qualifier s
    obtain ⟨hname, text, htext, rest, hrest⟩ := (nameInQuotes?_eq_some_iff _ _).mp hquoted
    refine ⟨hname, w.toList ++ (t ++ text), ?_, rest, ?_⟩
    · exact Language.append_mem_mul ((mem_clash_iff _).mpr ⟨w, hw, rfl⟩)
        (Language.append_mem_mul ht htext)
    · rw [hs, hqualified, ← hrest]
      simp only [List.append_assoc]
  · rintro ⟨hname, sentence, hsentence, rest, hrest⟩
    obtain ⟨a, ha, b, hb, rfl⟩ := Language.mem_mul.mp hsentence
    obtain ⟨t, ht, text, htext, rfl⟩ := Language.mem_mul.mp hb
    obtain ⟨w, hw, rfl⟩ := (mem_clash_iff a).mp ha
    refine ⟨t ++ (text ++ rest), ?_, ?_⟩
    · rw [← hrest, List.append_assoc, List.append_assoc]
      exact (Text.afterAny?_eq_some_iff clashWords hfree _ _).mpr ⟨w, hw, rfl⟩
    · have hquoted := (nameInQuotes?_eq_some_iff (text ++ rest) name.toList).mpr
        ⟨hname, text, htext, rest, rfl⟩
      obtain ⟨q, t', q', hq, -, -, rfl⟩ := (mem_quoted_iff _ _).mp htext
      rw [List.cons_append, getD_afterAny?_outerWords t ht q _ hq]
      exact hquoted

/-- A sentence starts and ends with characters that are no blanks. -/
theorem trim_of_mem_sentence (name s : List Char) (hs : s ∈ sentence name) :
    Text.trim s = s ∧ Text.isAllBlank s = false := by
  obtain ⟨a, ha, b, hb, rfl⟩ := Language.mem_mul.mp hs
  obtain ⟨t, ht, text, htext, rfl⟩ := Language.mem_mul.mp hb
  obtain ⟨w, hw, rfl⟩ := (mem_clash_iff a).mp ha
  obtain ⟨q, t', q', -, -, hq', rfl⟩ := (mem_quoted_iff _ _).mp htext
  have hword : ∀ w ∈ clashWords, w.toList.head?.map Text.isBlank = some false := by decide
  obtain ⟨d, hd, hblank⟩ := Option.map_eq_some_iff.mp (hword w hw)
  obtain ⟨w', hw'⟩ := List.head?_eq_some_iff.mp hd
  constructor
  · have hstart : ∀ u, Text.trimStart (w.toList ++ u) = w.toList ++ u := by
      intro u
      rw [hw', List.cons_append, Text.trimStart_cons d _ hblank]
    have hend := Text.trimEnd_append_of_not_isBlank (w.toList ++ (t ++ q :: (t' ++ name))) q'
      (isBlank_of_isQuote q' hq')
    rw [Text.trim, hstart]
    simpa only [List.append_assoc, List.cons_append] using hend
  · rw [hw', Text.isAllBlank, List.cons_append, List.all_cons, hblank, Bool.false_and]

/-- What a message is read as reporting is the identifier in the sentence of the grammar that it
starts with behind any blanks. No message starts with sentences of two identifiers, every identifier
of a sentence is one that can be renamed, and what follows the closing quote of a sentence is
free. -/
theorem collisionIdentifier?_eq_some_iff_reports :
    (∀ message name : String,
        collisionIdentifier? message = some name ↔ Reports message name) ∧
      (∀ message name other : String, Reports message name → Reports message other → name = other) ∧
      (∀ message name : String, Reports message name → Naming.isIdentifier name = true) ∧
      ∀ (name : String) (s blanks rest : List Char), name.toList ∈ identifier →
        s ∈ sentence name.toList → Text.isAllBlank blanks = true →
          collisionIdentifier? (String.ofList (blanks ++ (s ++ rest))) = some name := by
  refine ⟨collisionIdentifier?_eq_some_iff, ?_, ?_, ?_⟩
  · intro message name other hname hother
    rw [← collisionIdentifier?_eq_some_iff] at hname hother
    exact Option.some.inj (hname.symm.trans hother)
  · intro message name hreports
    exact (mem_identifier_iff name.toList).mp hreports.1
  · intro name s blanks rest hname hs hblanks
    obtain ⟨htrim, hnotBlank⟩ := trim_of_mem_sentence name.toList s hs
    have hprefix := Text.trim_prefix_trim_append s rest hnotBlank
    rw [htrim] at hprefix
    rw [collisionIdentifier?_eq_some_iff, Reports, String.toList_ofList,
      Text.trim_append_of_isAllBlank blanks _ hblanks]
    exact ⟨hname, s, hs, hprefix⟩

/-- A name that is spelled like a tag word is read as a name when a quote follows it. -/
example : collisionIdentifier? "redefinition of 'struct‘ with other members" = some "struct" := by
  decide

end UnityBuild.Diagnostic
