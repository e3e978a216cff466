import UnityBuild.Proofs.Path.Components
import UnityBuild.Proofs.Text.Escaped

/-!
# Reading a line as words of a shell

A shell reads a line as words between blanks. Outside quotes a backslash makes the next character
literal; between single quotes all characters are literal; between double quotes a backslash does so
for a few characters and stands for itself in front of the others. Characters that mean something
else to the shell when they stand outside quotes are a parameter: a line with one of them is not
read.

A line in which quotes stand only behind backslashes and backslashes only in front of double quotes
is read by taking the backslashes away and cutting at the blanks. It is the only way in which a line
can be read without losing more than one backslash for each double quote.

Main statements: `readFrom_of_isWritten` and `losesPairs_of_count_le`.
-/

namespace UnityBuild

namespace ShellWords

open Text (consHead splitAt unescapeQuotes)

/-- Where the reader of a line stands: between words, in a word, behind a backslash, between single
or double quotes, or behind a backslash between double quotes. -/
inductive Place where
  | between
  | word
  | escaped
  | single
  | double
  | doubleEscaped
deriving DecidableEq, Repr

/-- The blanks that separate words. -/
def isSeparator (c : Char) : Bool :=
  c == ' ' || c == '\t'

/-- The characters that a backslash makes literal between double quotes. -/
def isEscapable (c : Char) : Bool :=
  c == '$' || c == '\x60' || c == '"' || c == '\\'

/-- What a character outside quotes does: where it leads and what it adds to the word. -/
def stepOutside (reserved : Char → Bool) (c : Char) : Option (Place × List Char) :=
  if isSeparator c then some (.between, [])
  else if c = '\\' then some (.escaped, [])
  else if c = '\'' then some (.single, [])
  else if c = '"' then some (.double, [])
  else if reserved c then none
  else some (.word, [c])

/-- What a character does at a place. -/
def step (reserved : Char → Bool) : Place → Char → Option (Place × List Char)
  | .between, c => stepOutside reserved c
  | .word, c => stepOutside reserved c
  | .escaped, c => some (.word, [c])
  | .single, c => if c = '\'' then some (.word, []) else some (.single, [c])
  | .double, c =>
    if c = '"' then some (.word, [])
    else if c = '\\' then some (.doubleEscaped, [])
    else some (.double, [c])
  | .doubleEscaped, c => some (.double, if isEscapable c then [c] else ['\\', c])

/-- Puts characters in front of the first word. -/
def extendFirst (added : List Char) : List (List Char) → List (List Char)
  | [] => [added]
  | word :: words => (added ++ word) :: words

/-- What was read with one step more. A blank ends the word that it follows; everywhere else the
step belongs to the first of the words behind it. -/
def attach (place next : Place) (added : List Char) (words : List (List Char)) : List (List Char) :=
  if next = .between then if place = .between then words else [] :: words
  else extendFirst added words

/-- The words of a line from a place on, where the first one goes on with what was read of it. A
line that ends behind a backslash or between quotes is not read. -/
def readFrom (reserved : Char → Bool) : Place → List Char → Option (List (List Char))
  | .between, [] => some []
  | .word, [] => some [[]]
  | _, [] => none
  | place, c :: s =>
    (step reserved place c).bind fun (next, added) =>
      (readFrom reserved next s).map (attach place next added)

/-- The words of a line. -/
def read (reserved : Char → Bool) (line : String) : Option (List String) :=
  (readFrom reserved .between line.toList).map fun words => words.map String.ofList

example : read (· == ';') "cc 'a b'\"c\\\"\" \\; ''" = some ["cc", "a bc\"", ";", ""] := by
  decide +kernel

/-- A character that stands for itself outside quotes. -/
def isPlain (reserved : Char → Bool) (c : Char) : Bool :=
  !isSeparator c && c != '\\' && c != '\'' && c != '"' && !reserved c

/-- A character that ends a word or stands for itself outside quotes. -/
def isOrdinary (reserved : Char → Bool) (c : Char) : Bool :=
  isSeparator c || isPlain reserved c

/-- A text is written of some characters when it consists of them and of double quotes that have a
backslash in front of them. -/
def isWritten (allowed : Char → Bool) : List Char → Bool
  | [] => true
  | '\\' :: '"' :: s => isWritten allowed s
  | c :: s => allowed c && isWritten allowed s

/-- A first character other than a backslash has to be allowed. -/
theorem isWritten_cons (allowed : Char → Bool) (c : Char) (s : List Char) (hc : c ≠ '\\') :
    isWritten allowed (c :: s) = (allowed c && isWritten allowed s) := by
  rw [isWritten]
  intro t hbackslash
  exact absurd hbackslash hc

section Reading

variable (reserved : Char → Bool)

/-- A line is read by taking its first character and reading on from where it leads. -/
theorem readFrom_cons (place next : Place) (c : Char) (s added : List Char)
    (h : step reserved place c = some (next, added)) :
    readFrom reserved place (c :: s) =
      (readFrom reserved next s).map (attach place next added) := by
  rw [readFrom, h, Option.bind_some]

/-- The readings of a line that is not empty go through its first character. -/
theorem readFrom_cons_eq_some_iff (place : Place) (c : Char) (s : List Char)
    (words : List (List Char)) :
    readFrom reserved place (c :: s) = some words ↔
      ∃ next added rest, step reserved place c = some (next, added) ∧
        readFrom reserved next s = some rest ∧ attach place next added rest = words := by
  rw [readFrom, Option.bind_eq_some_iff]
  simp only [Option.map_eq_some_iff, Prod.exists]
  constructor
  · rintro ⟨next, added, hstep, rest, hrest, hwords⟩
    exact ⟨next, added, rest, hstep, hrest, hwords⟩
  · rintro ⟨next, added, rest, hstep, hrest, hwords⟩
    exact ⟨next, added, hstep, rest, hrest, hwords⟩

/-- Outside quotes a character ends a word, escapes the next one, opens quotes or stands for
itself. -/
theorem stepOutside_cases (c : Char) (next : Place) (added : List Char)
    (h : stepOutside reserved c = some (next, added)) :
    (isSeparator c = true ∧ next = .between ∧ added = []) ∨
      (c = '\\' ∧ next = .escaped ∧ added = []) ∨
      (c = '\'' ∧ next = .single ∧ added = []) ∨
      (c = '"' ∧ next = .double ∧ added = []) ∨
      (isPlain reserved c = true ∧ next = .word ∧ added = [c]) := by
  unfold stepOutside at h
  split at h
  · cases h
    exact .inl ⟨‹_›, rfl, rfl⟩
  · rename_i hseparator
    split at h
    · cases h
      exact .inr (.inl ⟨‹_›, rfl, rfl⟩)
    · rename_i hbackslash
      split at h
      · cases h
        exact .inr (.inr (.inl ⟨‹_›, rfl, rfl⟩))
      · rename_i hsingle
        split at h
        · cases h
          exact .inr (.inr (.inr (.inl ⟨‹_›, rfl, rfl⟩)))
        · rename_i hdouble
          split at h
          · cases h
          · rename_i hreserved
            cases h
            refine .inr (.inr (.inr (.inr ⟨?_, rfl, rfl⟩)))
            simp [isPlain, hseparator, hbackslash, hsingle, hdouble, hreserved]

/-- A character adds nothing, or it adds itself with at most a backslash in front of it and leads
into a word. -/
theorem step_cases (place next : Place) (c : Char) (added : List Char)
    (h : step reserved place c = some (next, added)) :
    added = [] ∨ (next ≠ .between ∧ (added = [c] ∨ added = ['\\', c])) := by
  have houtside (h : stepOutside reserved c = some (next, added)) :
      added = [] ∨ (next ≠ .between ∧ (added = [c] ∨ added = ['\\', c])) := by
    rcases stepOutside_cases reserved c next added h with
      ⟨-, -, hadded⟩ | ⟨-, -, hadded⟩ | ⟨-, -, hadded⟩ | ⟨-, -, hadded⟩ | ⟨-, rfl, hadded⟩
    · exact .inl hadded
    · exact .inl hadded
    · exact .inl hadded
    · exact .inl hadded
    · exact .inr ⟨by decide, .inl hadded⟩
  cases place with
  | between => exact houtside h
  | word => exact houtside h
  | escaped =>
    cases h
    exact .inr ⟨by decide, .inl rfl⟩
  | single =>
    simp only [step] at h
    split at h
    · cases h
      exact .inl rfl
    · cases h
      exact .inr ⟨by decide, .inl rfl⟩
  | double =>
    simp only [step] at h
    split at h
    · cases h
      exact .inl rfl
    · split at h
      · cases h
        exact .inl rfl
      · cases h
        exact .inr ⟨by decide, .inl rfl⟩
  | doubleEscaped =>
    cases h
    split
    · exact .inr ⟨by decide, .inl rfl⟩
    · exact .inr ⟨by decide, .inr rfl⟩

/-- Only what the characters add gets into words. -/
theorem flatten_attach (place next : Place) (c : Char) (added : List Char)
    (rest : List (List Char)) (h : step reserved place c = some (next, added)) :
    (attach place next added rest).flatten = added ++ rest.flatten := by
  by_cases hnext : next = .between
  · subst hnext
    have hadded : added = [] :=
      (step_cases reserved place .between c added h).resolve_right fun hword => hword.1 rfl
    rw [attach, if_pos rfl, hadded]
    split
    · rfl
    · rfl
  · rw [attach, if_neg hnext]
    cases rest with
    | nil => simp [extendFirst]
    | cons word words => simp [extendFirst]

/-- A character other than a backslash adds no character but itself, and that at most once. -/
theorem count_added_le (place next : Place) (c q : Char) (added : List Char) (hq : q ≠ '\\')
    (h : step reserved place c = some (next, added)) : added.count q ≤ [c].count q := by
  rcases step_cases reserved place next c added h with rfl | ⟨-, rfl | rfl⟩
  · exact Nat.zero_le _
  · exact Nat.le_refl _
  · exact Nat.le_of_eq (List.count_cons_of_ne hq.symm)

/-- The words of a line have no more of a character other than the backslash than the line. -/
theorem count_flatten_le (place : Place) (s : List Char) (words : List (List Char)) (q : Char)
    (hq : q ≠ '\\') (h : readFrom reserved place s = some words) :
    words.flatten.count q ≤ s.count q := by
  induction s generalizing place words with
  | nil => cases place <;> cases h <;> exact Nat.le_refl 0
  | cons c s ih =>
    obtain ⟨next, added, rest, hstep, hrest, rfl⟩ :=
      (readFrom_cons_eq_some_iff reserved place c s words).mp h
    rw [flatten_attach reserved place next c added rest hstep, List.count_append,
      ← List.singleton_append, List.count_append]
    exact Nat.add_le_add (count_added_le reserved place next c q added hq hstep)
      (ih next rest hrest)

/-- A place outside quotes: between words, in a word or behind a backslash. -/
def Place.isOutside : Place → Bool
  | .between => true
  | .word => true
  | .escaped => true
  | _ => false

/-- A line with the backslash that its first character stands behind. -/
def Place.owed : Place → List Char → List Char
  | .escaped, s => '\\' :: s
  | _, s => s

/-- Reading a line takes away a backslash for each double quote at least, and when it takes away no
more, the line is written of ordinary characters. -/
def LosesPairs (line out : List Char) : Prop :=
  out.count '\\' + line.count '"' ≤ line.count '\\' ∧
    (line.count '\\' ≤ out.count '\\' + line.count '"' →
      isWritten (isOrdinary reserved) line = true)

/-- An ordinary character in front of a line loses nothing. -/
theorem LosesPairs.cons (line out added : List Char) (c : Char)
    (hrest : LosesPairs reserved line out) (hc : isOrdinary reserved c = true)
    (hbackslash : c ≠ '\\') (hquote : c ≠ '"') (hadded : added.count '\\' = 0) :
    LosesPairs reserved (c :: line) (added ++ out) := by
  obtain ⟨hcount, hwritten⟩ := hrest
  rw [LosesPairs, List.count_append, hadded, Nat.zero_add, List.count_cons_of_ne hbackslash,
    List.count_cons_of_ne hquote, isWritten_cons _ c line hbackslash, hc, Bool.true_and]
  exact ⟨hcount, hwritten⟩

/-- A character behind a backslash loses the backslash, which pays for a double quote alone. -/
theorem LosesPairs.cons_escaped (line out : List Char) (c : Char)
    (hrest : LosesPairs reserved line out) :
    LosesPairs reserved ('\\' :: c :: line) ([c] ++ out) := by
  obtain ⟨hcount, hwritten⟩ := hrest
  rw [LosesPairs, List.singleton_append, List.count_cons_self]
  by_cases hquote : c = '"'
  · subst hquote
    have hout : ('"' :: out).count '\\' = out.count '\\' := List.count_cons_of_ne (by decide)
    have hbackslashes : ('"' :: line).count '\\' = line.count '\\' :=
      List.count_cons_of_ne (by decide)
    have hquotes : ('\\' :: '"' :: line).count '"' = line.count '"' + 1 := by
      rw [List.count_cons_of_ne (by decide), List.count_cons_self]
    rw [hout, hbackslashes, hquotes, isWritten]
    exact ⟨by omega, fun hmost => hwritten (by omega)⟩
  · have hquotes : ('\\' :: c :: line).count '"' = line.count '"' := by
      rw [List.count_cons_of_ne (by decide), List.count_cons_of_ne hquote]
    rw [hquotes, List.count_cons, List.count_cons]
    exact ⟨by omega, fun hmost => absurd hmost (by omega)⟩

/-- No ordinary character is a backslash or a quote. -/
theorem ne_of_isOrdinary (c : Char) (h : isOrdinary reserved c = true) :
    c ≠ '\\' ∧ c ≠ '\'' ∧ c ≠ '"' := by
  rcases Bool.or_eq_true_iff.mp h with hseparator | hplain
  · rcases Bool.or_eq_true_iff.mp hseparator with hspace | htab
    · rw [eq_of_beq hspace]
      decide
    · rw [eq_of_beq htab]
      decide
  · simp only [isPlain, Bool.and_eq_true, bne_iff_ne] at hplain
    exact ⟨hplain.1.1.1.2, hplain.1.1.2, hplain.1.2⟩

/-- Reading from outside quotes loses pairs only, as long as no quote is lost. -/
theorem losesPairs_of_count_le (place : Place) (s : List Char) (words : List (List Char))
    (houtside : place.isOutside = true) (h : readFrom reserved place s = some words)
    (hdouble : s.count '"' ≤ words.flatten.count '"')
    (hsingle : s.count '\'' ≤ words.flatten.count '\'') :
    LosesPairs reserved (place.owed s) words.flatten := by
  induction s generalizing place words with
  | nil =>
    cases place with
    | between => cases h; exact ⟨Nat.le_refl _, fun _ => rfl⟩
    | word => cases h; exact ⟨Nat.le_refl _, fun _ => rfl⟩
    | _ => cases h
  | cons c s ih =>
    obtain ⟨next, added, rest, hstep, hrest, rfl⟩ :=
      (readFrom_cons_eq_some_iff reserved place c s words).mp h
    rw [flatten_attach reserved place next c added rest hstep] at hdouble hsingle ⊢
    have hordinary (hc : isOrdinary reserved c = true) (hout : next.isOutside = true)
        (howed : next.owed s = s) (hadded : ∀ q, c ≠ q → added.count q = 0) :
        LosesPairs reserved (c :: s) (added ++ rest.flatten) := by
      obtain ⟨hbackslash, hsinglequote, hquote⟩ := ne_of_isOrdinary reserved c hc
      rw [List.count_append, hadded _ hquote, Nat.zero_add, List.count_cons_of_ne hquote] at hdouble
      rw [List.count_append, hadded _ hsinglequote, Nat.zero_add,
        List.count_cons_of_ne hsinglequote] at hsingle
      have hrest := ih next rest hout hrest hdouble hsingle
      rw [howed] at hrest
      exact hrest.cons reserved s _ added c hc hbackslash hquote (hadded _ hbackslash)
    have hopen (hstep : stepOutside reserved c = some (next, added)) :
        LosesPairs reserved (c :: s) (added ++ rest.flatten) := by
      rcases stepOutside_cases reserved c next added hstep with
        ⟨hc, rfl, rfl⟩ | ⟨rfl, rfl, rfl⟩ | ⟨rfl, rfl, rfl⟩ | ⟨rfl, rfl, rfl⟩ | ⟨hc, rfl, rfl⟩
      · exact hordinary (by rw [isOrdinary, hc, Bool.true_or]) rfl rfl fun q _ => rfl
      · exact ih .escaped rest rfl hrest hdouble hsingle
      · have hlost := count_flatten_le reserved .single s rest '\'' (by decide) hrest
        rw [List.nil_append, List.count_cons_self] at hsingle
        omega
      · have hlost := count_flatten_le reserved .double s rest '"' (by decide) hrest
        rw [List.nil_append, List.count_cons_self] at hdouble
        omega
      · exact hordinary (by rw [isOrdinary, hc, Bool.or_true]) rfl rfl fun q hq => by
          rw [List.count_cons_of_ne hq]
          rfl
    cases place with
    | between => exact hopen hstep
    | word => exact hopen hstep
    | escaped =>
      cases hstep
      rw [List.count_append, ← List.singleton_append, List.count_append] at hdouble hsingle
      exact (ih .word rest rfl hrest (Nat.le_of_add_le_add_left hdouble)
        (Nat.le_of_add_le_add_left hsingle)).cons_escaped reserved s rest.flatten c
    | _ => cases houtside

/-- The words among pieces: those that are not empty. -/
def nonEmpty (pieces : List (List Char)) : List (List Char) :=
  pieces.filter fun piece => !piece.isEmpty

/-- The pieces of a text of which the first one is the end of a word, which may be empty. -/
def nonEmptyTail : List (List Char) → List (List Char)
  | [] => []
  | first :: pieces => first :: nonEmpty pieces

/-- A character in front of pieces belongs to the first word, which is then not empty. -/
theorem nonEmpty_consHead (c : Char) (pieces : List (List Char)) (h : pieces ≠ []) :
    nonEmpty (consHead c pieces) = extendFirst [c] (nonEmptyTail pieces) ∧
      nonEmptyTail (consHead c pieces) = extendFirst [c] (nonEmptyTail pieces) := by
  cases pieces with
  | nil => exact absurd rfl h
  | cons first pieces => exact ⟨rfl, rfl⟩

/-- Outside quotes a blank leads out of a word. -/
theorem stepOutside_of_isSeparator (c : Char) (h : isSeparator c = true) :
    stepOutside reserved c = some (.between, []) :=
  if_pos h

/-- Outside quotes a plain character stands for itself. -/
theorem stepOutside_of_isPlain (c : Char) (h : isPlain reserved c = true) :
    stepOutside reserved c = some (.word, [c]) := by
  simp only [isPlain, Bool.and_eq_true, bne_iff_ne, Bool.not_eq_true'] at h
  obtain ⟨⟨⟨⟨hseparator, hbackslash⟩, hsingle⟩, hdouble⟩, hreserved⟩ := h
  simp only [stepOutside, hseparator, hbackslash, hsingle, hdouble, hreserved, Bool.false_eq_true,
    if_false]

/-- A line that is written of ordinary characters is read by taking the backslashes away and cutting
at the blanks. -/
theorem readFrom_of_isWritten (s : List Char) (h : isWritten (isOrdinary reserved) s = true) :
    readFrom reserved .between s = some (nonEmpty (splitAt isSeparator (unescapeQuotes s))) ∧
      readFrom reserved .word s = some (nonEmptyTail (splitAt isSeparator (unescapeQuotes s))) := by
  fun_induction isWritten (isOrdinary reserved) s with
  | case1 => exact ⟨rfl, rfl⟩
  | case2 s ih =>
    obtain ⟨-, hword⟩ := ih h
    obtain ⟨hfirst, htail⟩ := nonEmpty_consHead '"' _
      (Text.splitAt_ne_nil isSeparator (unescapeQuotes s))
    have hread (place : Place) (hplace : step reserved place '\\' = some (.escaped, [])) :
        readFrom reserved place ('\\' :: '"' :: s) =
          some (extendFirst ['"'] (nonEmptyTail (splitAt isSeparator (unescapeQuotes s)))) := by
      rw [readFrom_cons reserved place .escaped '\\' ('"' :: s) [] hplace,
        readFrom_cons reserved .escaped .word '"' s ['"'] rfl, hword, Option.map_some,
        Option.map_some]
      cases nonEmptyTail (splitAt isSeparator (unescapeQuotes s)) <;> rfl
    have hunescape : splitAt isSeparator (unescapeQuotes ('\\' :: '"' :: s)) =
        consHead '"' (splitAt isSeparator (unescapeQuotes s)) := rfl
    rw [hunescape, hfirst, htail]
    exact ⟨hread .between rfl, hread .word rfl⟩
  | case3 c s _ ih =>
    rw [Bool.and_eq_true] at h
    obtain ⟨hc, hs⟩ := h
    obtain ⟨hbetween, hword⟩ := ih hs
    rw [Text.unescapeQuotes_cons c s (ne_of_isOrdinary reserved c hc).1, splitAt]
    rcases Bool.or_eq_true_iff.mp hc with hseparator | hplain
    · have hstep := stepOutside_of_isSeparator reserved c hseparator
      rw [if_pos hseparator, readFrom_cons reserved .between .between c s [] hstep,
        readFrom_cons reserved .word .between c s [] hstep, hbetween]
      exact ⟨rfl, rfl⟩
    · have hstep := stepOutside_of_isPlain reserved c hplain
      have hseparator : ¬ isSeparator c = true := by
        simp only [isPlain, Bool.and_eq_true, Bool.not_eq_true'] at hplain
        simp [hplain.1.1.1.1]
      obtain ⟨hfirst, htail⟩ := nonEmpty_consHead c _
        (Text.splitAt_ne_nil isSeparator (unescapeQuotes s))
      rw [if_neg hseparator, readFrom_cons reserved .between .word c s [c] hstep,
        readFrom_cons reserved .word .word c s [c] hstep, hword, hfirst, htail]
      exact ⟨rfl, rfl⟩

end Reading

end ShellWords

end UnityBuild
