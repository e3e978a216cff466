import Mathlib.Tactic.SplitIfs
import UnityBuild.Json.Printer
import UnityBuild.Json.Reader

/-!
# Reading back what was printed

A string is printed with escapes for quotes, backslashes and controls, and reading takes every
escape back. A list or an object is printed over several lines, and reading passes over the space
between its members. So every value is read back from its text, whatever follows the text. Numbers
are left out: what they are read as also depends on what follows them.

Main statement: `readDocument?_pretty`.
-/

namespace UnityBuild.Json

open Text (Reader hexValue? hexNumber?)

section Strings

/-- A hexadecimal digit is read as its value. -/
theorem hexValue?_digitChar (n : Nat) (hn : n < 16) : hexValue? (Nat.digitChar n) = some n := by
  have hall : ∀ n < 16, hexValue? (Nat.digitChar n) = some n := by decide
  exact hall n hn

/-- The digits in the escape of a control write its code point. -/
theorem hexNumber?_control (c : Char) (hc : c.toNat < 0x20) :
    hexNumber? ['0', '0', Nat.digitChar (c.toNat / 16), Nat.digitChar (c.toNat % 16)] =
      some c.toNat := by
  have hhigh := hexValue?_digitChar (c.toNat / 16) (by omega)
  have hlow := hexValue?_digitChar (c.toNat % 16) (by omega)
  have hzero : hexValue? '0' = some 0 := by decide
  simp only [hexNumber?, List.foldlM_cons, List.foldlM_nil, hhigh, hlow, hzero, Option.map_some,
    bind, Option.bind, pure, Option.some.injEq]
  omega

variable (front s : List Char)

/-- An escape by one letter is read as the character that the letter stands for. -/
theorem readStringFrom?_letter (letter c : Char) (hu : letter ≠ 'u')
    (hc : escapedChar? letter = some c) :
    readStringFrom? front ('\\' :: letter :: s) = readStringFrom? (c :: front) s := by
  rw [readStringFrom?, hc]
  all_goals
    intros
    exact absurd ‹letter = 'u'› hu

/-- An escape by code point is read as its character, unless it is half of a pair. -/
theorem readStringFrom?_unicode (a b c d : Char) (unit : Nat)
    (hunit : hexNumber? [a, b, c, d] = some unit) (hlow : isLowSurrogate unit = false)
    (hhigh : isHighSurrogate unit = false) :
    readStringFrom? front ('\\' :: 'u' :: a :: b :: c :: d :: s) =
      readStringFrom? (Char.ofNat unit :: front) s := by
  -- A second escape behind the first is looked at together with it.
  by_cases hpair : ∃ e f g h rest, s = '\\' :: 'u' :: e :: f :: g :: h :: rest
  · obtain ⟨e, f, g, h, rest, rfl⟩ := hpair
    rw [readStringFrom?]
    simp only [hunit, hlow, hhigh, Bool.false_eq_true, if_false]
  · rw [readStringFrom?]
    · simp only [hunit, hlow, hhigh, Bool.or_self, Bool.false_eq_true, if_false]
    · exact fun e f g h rest hs => hpair ⟨e, f, g, h, rest, hs⟩

/-- A character that needs no escape is read as itself. -/
theorem readStringFrom?_plain (c : Char) (hquote : c ≠ '"') (hslash : c ≠ '\\')
    (hcontrol : ¬ c.toNat < 0x20) :
    readStringFrom? front (c :: s) = readStringFrom? (c :: front) s := by
  rw [readStringFrom?, if_neg hcontrol]
  case x_2 => exact hquote
  all_goals
    intros
    exact absurd ‹c = '\\'› hslash

/-- Whatever is written for a character is read as the character. -/
theorem readStringFrom?_escapeChar (c : Char) :
    readStringFrom? front (escapeChar c ++ s) = readStringFrom? (c :: front) s := by
  unfold escapeChar
  split_ifs with hquote hslash hback hfeed hline hreturn htab hcontrol
  · rw [hquote]
    exact readStringFrom?_letter front s '"' '"' (by decide) (by decide)
  · rw [hslash]
    exact readStringFrom?_letter front s '\\' '\\' (by decide) (by decide)
  · rw [hback]
    exact readStringFrom?_letter front s 'b' '\x08' (by decide) (by decide)
  · rw [hfeed]
    exact readStringFrom?_letter front s 'f' '\x0c' (by decide) (by decide)
  · rw [hline]
    exact readStringFrom?_letter front s 'n' '\n' (by decide) (by decide)
  · rw [hreturn]
    exact readStringFrom?_letter front s 'r' '\r' (by decide) (by decide)
  · rw [htab]
    exact readStringFrom?_letter front s 't' '\t' (by decide) (by decide)
  · have hlow : isLowSurrogate c.toNat = false := by
      simp only [isLowSurrogate, Bool.and_eq_false_iff, decide_eq_false_iff_not]
      omega
    have hhigh : isHighSurrogate c.toNat = false := by
      simp only [isHighSurrogate, Bool.and_eq_false_iff, decide_eq_false_iff_not]
      omega
    have hread := readStringFrom?_unicode front s _ _ _ _ _ (hexNumber?_control c hcontrol) hlow hhigh
    rw [Char.ofNat_toNat] at hread
    exact hread
  · exact readStringFrom?_plain front s c hquote hslash hcontrol

/-- The inside of a written string is read as the string, whatever follows its quote. -/
theorem readStringFrom?_flatMap_escapeChar (rest : List Char) :
    readStringFrom? front (s.flatMap escapeChar ++ '"' :: rest) = some (front.reverse ++ s, rest) := by
  induction s generalizing front with
  | nil => simp [readStringFrom?]
  | cons c s ih =>
    rw [List.flatMap_cons, List.append_assoc, readStringFrom?_escapeChar, ih, List.reverse_cons,
      List.append_assoc, List.singleton_append]

end Strings

section Members

/-- A reader reads a text as its value, behind any space and whatever follows. -/
def ReadsBack {α : Type} (reader : Reader α) (text : List Char) (a : α) : Prop :=
  ∀ space rest : List Char, (∀ c ∈ space, isSpace c = true) →
    reader (space ++ (text ++ rest)) = some (a, rest)

/-- A text that starts with a token which closes nothing. -/
def Opens (text : List Char) : Prop :=
  ∃ c s, text = c :: s ∧ isSpace c = false ∧ c ≠ ']' ∧ c ≠ '}'

/-- Space in front of a token is dropped. -/
theorem skipSpace_append (space s : List Char) (c : Char) (hspace : ∀ c ∈ space, isSpace c = true)
    (hc : isSpace c = false) : skipSpace (space ++ c :: s) = c :: s := by
  rw [skipSpace, List.dropWhile_append_of_pos hspace, List.dropWhile_cons_of_neg]
  rw [hc]
  exact Bool.false_ne_true

/-- A line feed and the blanks of a level are space. -/
theorem isSpace_of_mem_newline (level : Nat) : ∀ c ∈ newline level, isSpace c = true := by
  intro c hc
  rcases List.mem_cons.mp hc with rfl | hblank
  · decide
  · obtain ⟨-, rfl⟩ := List.mem_replicate.mp hblank
    decide

/-- Texts that each start with a separator have at least one character for each of them. -/
theorem length_le_length_flatMap_cons {α : Type} (l : List α) (separator : Char)
    (text : α → List Char) : l.length ≤ (l.flatMap fun a => separator :: text a).length := by
  induction l with
  | nil => exact Nat.le_refl 0
  | cons a l ih =>
    rw [List.flatMap_cons, List.length_append, List.length_cons, List.length_cons]
    omega

variable {α : Type} (close : Char) (member : Reader α) (text : α → List Char) (level below : Nat)

/-- Further members are read from the texts behind commas that are written for them. -/
theorem readMore?_flatMap (hspace : isSpace close = false) (hcomma : close ≠ ',')
    (members : List α) (hreads : ∀ a ∈ members, ReadsBack member (text a) a)
    (bound : List Char) (front : List α) (rest : List Char) (hbound : members.length < bound.length) :
    readMore? close member bound front
        (members.flatMap (fun a => ',' :: (newline level ++ text a))
          ++ (newline below ++ close :: rest)) = some (front.reverse ++ members, rest) := by
  induction members generalizing bound front with
  | nil =>
    cases bound with
    | nil => exact absurd hbound (Nat.not_lt_zero _)
    | cons _ bound =>
      rw [List.flatMap_nil, List.nil_append, readMore?,
        skipSpace_append _ rest close (isSpace_of_mem_newline below) hspace]
      simp only [if_true, List.append_nil]
  | cons a members ih =>
    cases bound with
    | nil => exact absurd hbound (Nat.not_lt_zero _)
    | cons _ bound =>
      have hmember := hreads a List.mem_cons_self (newline level)
        (members.flatMap (fun a => ',' :: (newline level ++ text a))
          ++ (newline below ++ close :: rest)) (isSpace_of_mem_newline level)
      have htoken : skipSpace (',' :: (newline level ++ (text a ++
          (members.flatMap (fun a => ',' :: (newline level ++ text a))
            ++ (newline below ++ close :: rest))))) = _ :=
        skipSpace_append [] _ ',' (fun _ h => absurd h List.not_mem_nil) (by decide)
      rw [List.flatMap_cons, List.append_assoc, List.cons_append, List.append_assoc, readMore?, htoken]
      simp only [if_neg (Ne.symm hcomma), if_true, hmember]
      rw [ih (fun b hb => hreads b (List.mem_cons_of_mem a hb)) bound (a :: front)
        (Nat.lt_of_succ_lt_succ hbound), List.reverse_cons, List.append_assoc, List.singleton_append]

/-- All members are read from the lines that are written for them between two brackets. -/
theorem readMembers?_lines (hclose : close = ']' ∨ close = '}') (first : α) (members : List α)
    (hreads : ∀ a ∈ first :: members, ReadsBack member (text a) a) (hopens : Opens (text first))
    (rest : List Char) :
    readMembers? close member (newline level ++ (text first ++
        (members.flatMap (fun a => ',' :: (newline level ++ text a))
          ++ (newline below ++ close :: rest)))) = some (first :: members, rest) := by
  have hspace : isSpace close = false := by
    rcases hclose with rfl | rfl
    · decide
    · decide
  have hcomma : close ≠ ',' := by
    rcases hclose with rfl | rfl
    · decide
    · decide
  obtain ⟨c, s, htext, hc, hlist, hobject⟩ := hopens
  have hopen : c ≠ close := by
    rcases hclose with rfl | rfl
    · exact hlist
    · exact hobject
  generalize htail : members.flatMap (fun a => ',' :: (newline level ++ text a))
    ++ (newline below ++ close :: rest) = tail
  have hfirst := hreads first List.mem_cons_self [] tail fun _ h => absurd h List.not_mem_nil
  have hbound : members.length < tail.length := by
    have hlong := length_le_length_flatMap_cons members ',' fun a => newline level ++ text a
    rw [← htail, List.length_append, List.length_append, List.length_cons]
    omega
  rw [readMembers?, htext, List.cons_append, skipSpace_append _ _ c (isSpace_of_mem_newline level) hc]
  rw [htext, List.nil_append, List.cons_append] at hfirst
  simp only [if_neg hopen, hfirst]
  have hmore := readMore?_flatMap close member text level below hspace hcomma members
    (fun a ha => hreads a (List.mem_cons_of_mem first ha)) tail [first] rest hbound
  rw [htail] at hmore
  exact hmore

end Members

/-- A value made of texts, truth values and nulls, whose lists and objects nest at most so deep. -/
inductive Value.Textual : Nat → Value → Prop where
  | null (depth : Nat) : Textual depth .null
  | bool (depth : Nat) (value : Bool) : Textual depth (.bool value)
  | string (depth : Nat) (value : String) : Textual depth (.string value)
  | array (depth : Nat) (items : List Value) (hitems : ∀ item ∈ items, Textual depth item) :
      Textual (depth + 1) (.array items)
  | object (depth : Nat) (fields : List (String × Value))
      (hfields : ∀ field ∈ fields, Textual depth field.2) : Textual (depth + 1) (.object fields)

section Values

/-- The text of a field. -/
def fieldText (level : Nat) (field : String × Value) : List Char :=
  writeString field.1 ++ [':', ' '] ++ write level field.2

/-- The further items of a list are written one after the other. -/
theorem writeItems_eq_flatMap (level : Nat) (items : List Value) :
    writeItems level items = items.flatMap fun item => ',' :: (newline level ++ write level item) := by
  induction items with
  | nil => rw [writeItems, List.flatMap_nil]
  | cons item items ih =>
    rw [writeItems, List.flatMap_cons, ih]
    simp only [List.cons_append, List.append_assoc]

/-- The further fields of an object are written one after the other. -/
theorem writeFields_eq_flatMap (level : Nat) (fields : List (String × Value)) :
    writeFields level fields =
      fields.flatMap fun field => ',' :: (newline level ++ fieldText level field) := by
  induction fields with
  | nil => rw [writeFields, List.flatMap_nil]
  | cons field fields ih =>
    obtain ⟨name, value⟩ := field
    rw [writeFields, List.flatMap_cons, ih, fieldText]
    simp only [List.cons_append, List.append_assoc]

/-- The text of a value without numbers starts with a token that closes nothing. -/
theorem opens_write (depth level : Nat) (v : Value) (hv : v.Textual depth) :
    Opens (write level v) := by
  cases hv with
  | null => exact ⟨'n', _, rfl, by decide⟩
  | bool _ value =>
    cases value with
    | true => exact ⟨'t', _, rfl, by decide⟩
    | false => exact ⟨'f', _, rfl, by decide⟩
  | string => exact ⟨'"', _, rfl, by decide⟩
  | array _ items =>
    cases items with
    | nil => exact ⟨'[', _, rfl, by decide⟩
    | cons => exact ⟨'[', _, by rw [write]; rfl, by decide⟩
  | object _ fields =>
    cases fields with
    | nil => exact ⟨'{', _, rfl, by decide⟩
    | cons => exact ⟨'{', _, by rw [write]; rfl, by decide⟩

/-- A written string is read back. -/
theorem readsBack_writeString (s : String) : ReadsBack readString? (writeString s) s := by
  intro space rest hspace
  have htoken := skipSpace_append space (s.toList.flatMap escapeChar ++ '"' :: rest) '"' hspace rfl
  have hbody := readStringFrom?_flatMap_escapeChar [] s.toList rest
  rw [writeString, List.cons_append, List.append_assoc, List.singleton_append, readString?, htoken]
  simp only [readStringBody?, hbody, Option.map_some, List.reverse_nil, List.nil_append,
    String.ofList_toList]

/-- A value that opens neither a list nor an object is read as a scalar at every depth. -/
theorem readValue?_scalar (depth : Nat) (s t : List Char) (c : Char) (hs : skipSpace s = c :: t)
    (hlist : c ≠ '[') (hobject : c ≠ '{') : readValue? depth s = readScalar? (c :: t) := by
  cases depth with
  | zero =>
    rw [readValue?]
    dsimp only
    rw [hs]
    split
    · exact absurd (List.cons.inj ‹_›).1 hlist
    · exact absurd (List.cons.inj ‹_›).1 hobject
    · rfl
  | succ depth =>
    rw [readValue?]
    dsimp only
    rw [hs]
    split
    · exact absurd (List.cons.inj ‹_›).1 hlist
    · exact absurd (List.cons.inj ‹_›).1 hobject
    · rfl

/-- A list is read from its members. -/
theorem readValue?_list (depth : Nat) (s t : List Char) (hs : skipSpace s = '[' :: t) :
    readValue? (depth + 1) s =
      (readMembers? ']' (readValue? depth) t).map fun (items, rest) => (.array items, rest) := by
  rw [readValue?]
  dsimp only
  rw [hs]
  rfl

/-- An object is read from its fields. -/
theorem readValue?_object (depth : Nat) (s t : List Char) (hs : skipSpace s = '{' :: t) :
    readValue? (depth + 1) s =
      (readMembers? '}' (readField? fun name s =>
        (readValue? depth s).map fun (value, rest) => ((name, value), rest)) t).map
        fun (fields, rest) => (.object fields, rest) := by
  rw [readValue?]
  dsimp only
  rw [hs]
  rfl

/-- The text of a field is read back as the field when the text of its value is. -/
theorem readsBack_fieldText (reader : Reader Value) (level : Nat) (field : String × Value)
    (hvalue : ReadsBack reader (write level field.2) field.2) :
    ReadsBack
      (readField? fun name s => (reader s).map fun (value, rest) => ((name, value), rest))
      (fieldText level field) field := by
  intro space rest hspace
  have hname := readsBack_writeString field.1 space
    (':' :: ([' '] ++ (write level field.2 ++ rest))) hspace
  have hcolon : readColon? (':' :: ([' '] ++ (write level field.2 ++ rest))) =
      some ([' '] ++ (write level field.2 ++ rest)) := rfl
  have hblank : ∀ c ∈ [' '], isSpace c = true := by
    intro c hc
    rw [List.mem_singleton.mp hc]
    rfl
  have hread := hvalue [' '] rest hblank
  have htext : space ++ (fieldText level field ++ rest) =
      space ++ (writeString field.1 ++ ':' :: ([' '] ++ (write level field.2 ++ rest))) := by
    simp only [fieldText, List.append_assoc, List.cons_append, List.nil_append]
  rw [htext, readField?]
  simp only [hname, hcolon, hread, bind, Option.bind, Option.map_some]

/-- A list with members is read back when its members are. -/
theorem readsBack_list (depth level : Nat) (first : Value) (items : List Value)
    (hreads : ∀ item ∈ first :: items, ReadsBack (readValue? depth) (write (level + 1) item) item)
    (hopens : Opens (write (level + 1) first)) :
    ReadsBack (readValue? (depth + 1)) (write level (.array (first :: items)))
      (.array (first :: items)) := by
  intro space rest hspace
  have hmembers := readMembers?_lines ']' (readValue? depth) (write (level + 1)) (level + 1) level
    (.inl rfl) first items hreads hopens rest
  have htext : space ++ (write level (.array (first :: items)) ++ rest) =
      space ++ '[' :: (newline (level + 1) ++ (write (level + 1) first ++
        (items.flatMap (fun item => ',' :: (newline (level + 1) ++ write (level + 1) item))
          ++ (newline level ++ ']' :: rest)))) := by
    rw [write, writeItems_eq_flatMap]
    simp only [List.append_assoc, List.cons_append, List.nil_append]
  rw [htext, readValue?_list depth _ _ (skipSpace_append space _ '[' hspace rfl), hmembers]
  rfl

/-- An object with fields is read back when the values of its fields are. -/
theorem readsBack_object (depth level : Nat) (first : String × Value)
    (fields : List (String × Value))
    (hreads : ∀ field ∈ first :: fields,
      ReadsBack (readValue? depth) (write (level + 1) field.2) field.2) :
    ReadsBack (readValue? (depth + 1)) (write level (.object (first :: fields)))
      (.object (first :: fields)) := by
  intro space rest hspace
  have hopens : Opens (fieldText (level + 1) first) := ⟨'"', _, rfl, by decide⟩
  have hmembers := readMembers?_lines '}'
    (readField? fun name s => (readValue? depth s).map fun (value, rest) => ((name, value), rest))
    (fieldText (level + 1)) (level + 1) level (.inr rfl) first fields
    (fun field hfield => readsBack_fieldText (readValue? depth) (level + 1) field (hreads field hfield))
    hopens rest
  have htext : space ++ (write level (.object (first :: fields)) ++ rest) =
      space ++ '{' :: (newline (level + 1) ++ (fieldText (level + 1) first ++
        (fields.flatMap (fun field => ',' :: (newline (level + 1) ++ fieldText (level + 1) field))
          ++ (newline level ++ '}' :: rest)))) := by
    obtain ⟨name, value⟩ := first
    rw [write, writeFields_eq_flatMap, fieldText]
    simp only [List.append_assoc, List.cons_append, List.nil_append]
  rw [htext, readValue?_object depth _ _ (skipSpace_append space _ '{' hspace rfl), hmembers]
  rfl

/-- Every value without numbers is read back from its text when the depth allows it. -/
theorem readsBack_write (depth : Nat) (v : Value) (hv : v.Textual depth) (level : Nat) :
    ReadsBack (readValue? depth) (write level v) v := by
  induction hv generalizing level with
  | null depth =>
    intro space rest hspace
    have htoken := skipSpace_append space ('u' :: 'l' :: 'l' :: rest) 'n' hspace rfl
    exact readValue?_scalar depth _ _ 'n' htoken (by decide) (by decide)
  | bool depth value =>
    intro space rest hspace
    cases value with
    | true =>
      have htoken := skipSpace_append space ('r' :: 'u' :: 'e' :: rest) 't' hspace rfl
      exact readValue?_scalar depth _ _ 't' htoken (by decide) (by decide)
    | false =>
      have htoken := skipSpace_append space ('a' :: 'l' :: 's' :: 'e' :: rest) 'f' hspace rfl
      exact readValue?_scalar depth _ _ 'f' htoken (by decide) (by decide)
  | string depth value =>
    intro space rest hspace
    have htoken := skipSpace_append space (value.toList.flatMap escapeChar ++ '"' :: rest) '"' hspace rfl
    have hbody := readStringFrom?_flatMap_escapeChar [] value.toList rest
    rw [write, writeString, List.cons_append, List.append_assoc, List.singleton_append,
      readValue?_scalar depth _ _ '"' htoken (by decide) (by decide), readScalar?]
    simp only [readStringBody?, hbody, Option.map_some, List.reverse_nil, List.nil_append,
      String.ofList_toList]
  | array depth items hitems ih =>
    cases items with
    | nil =>
      intro space rest hspace
      have htoken := skipSpace_append space (']' :: rest) '[' hspace rfl
      rw [write, List.cons_append, List.cons_append, List.nil_append, readValue?_list depth _ _ htoken]
      rfl
    | cons first items =>
      exact readsBack_list depth level first items (fun item hitem => ih item hitem (level + 1))
        (opens_write depth (level + 1) first (hitems first List.mem_cons_self))
  | object depth fields hfields ih =>
    cases fields with
    | nil =>
      intro space rest hspace
      have htoken := skipSpace_append space ('}' :: rest) '{' hspace rfl
      rw [write, List.cons_append, List.cons_append, List.nil_append,
        readValue?_object depth _ _ htoken]
      rfl
    | cons first fields =>
      exact readsBack_object depth level first fields fun field hfield => ih field hfield (level + 1)

end Values

/-- A value without numbers is read back from its document. -/
theorem readDocument?_pretty (v : Value) (hv : v.Textual maxDepth) :
    readDocument? v.pretty.toList = some v := by
  have hread := readsBack_write maxDepth v hv 0 [] [] fun _ h => absurd h List.not_mem_nil
  rw [List.nil_append, List.append_nil] at hread
  rw [Value.pretty, String.toList_ofList, readDocument?, hread]
  rfl

end UnityBuild.Json
