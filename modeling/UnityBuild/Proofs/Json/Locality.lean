import UnityBuild.Proofs.Json.RoundTrip
import UnityBuild.Proofs.Text.Locality

/-!
# JSON is read locally

All readers of JSON texts are local: numbers and literals look at the next character at most, and
strings, lists and objects end with a bracket or quote of their own. This holds of values that are
read and of values that are passed over, however deep they nest.

Main statements: `isClosed_readMembers?` and `isLocal_skipValue?`.
-/

namespace UnityBuild.Json

open Text

section Space

variable {α : Type} (reader : Reader α)

/-- Passing over space first keeps a reader local. -/
theorem isLocal_skipSpace (h : IsLocal reader) : IsLocal fun s => reader (skipSpace s) :=
  (isLocal_takeWhile isSpace).andThen _ _ fun _ => h

/-- Passing over space first keeps a reader closed. -/
theorem isClosed_skipSpace (h : IsClosed reader) : IsClosed fun s => reader (skipSpace s) :=
  (isLocal_takeWhile isSpace).andThen_isClosed _ _ fun _ => h

end Space

section Numbers

/-- What digits are read as depends on the run of digits alone. -/
theorem isLocal_takeDigits {α : Type} (f : List Char → Option α) :
    IsLocal fun s => (f (takeDigits s).1).map fun a => (a, (takeDigits s).2) :=
  (isLocal_takeWhile Char.isDigit).andThen _ _ fun digits => isLocal_map_some (f digits)

/-- Digits before the point, where a zero stands alone. -/
def wholeDigits? : List Char → Option (List Char)
  | [] => none
  | '0' :: _ :: _ => none
  | digits => some digits

/-- Digits behind a mark, where there is at least one. -/
def someDigits? : List Char → Option (List Char)
  | [] => none
  | digits => some digits

/-- The digits before the point are the run of digits, if it is one. -/
theorem readWhole?_eq (s : List Char) :
    readWhole? s = (wholeDigits? (takeDigits s).1).map fun digits => (digits, (takeDigits s).2) := by
  unfold readWhole?
  generalize takeDigits s = cut
  obtain ⟨digits, rest⟩ := cut
  unfold wholeDigits?
  dsimp only
  split
  · rename_i h
    obtain ⟨rfl, rfl⟩ := Prod.mk.inj h
    rfl
  · rename_i h
    obtain ⟨rfl, rfl⟩ := Prod.mk.inj h
    rfl
  · rename_i hnil hzero h
    obtain ⟨rfl, rfl⟩ := Prod.mk.inj h
    split
    · exact (hnil rfl).elim
    · exact (hzero _ _ rfl).elim
    · rfl

/-- The digits before the point are read locally. -/
theorem isLocal_readWhole? : IsLocal readWhole? := by
  rw [funext readWhole?_eq]
  exact isLocal_takeDigits wholeDigits?

/-- There is a digit before the point. -/
theorem length_lt_of_readWhole? (s digits rest : List Char)
    (h : readWhole? s = some (digits, rest)) : rest.length < s.length := by
  rw [readWhole?_eq] at h
  obtain ⟨digits, hdigits, h⟩ := Option.map_eq_some_iff.mp h
  cases h
  have hne : s.takeWhile Char.isDigit ≠ [] := by
    intro hnil
    rw [takeDigits, hnil] at hdigits
    cases hdigits
  have hcut : s.takeWhile Char.isDigit ++ s.dropWhile Char.isDigit = s :=
    List.takeWhile_append_dropWhile
  have hlength := congrArg List.length hcut
  rw [List.length_append] at hlength
  have hpos := List.length_pos_iff.mpr hne
  show (s.dropWhile Char.isDigit).length < s.length
  omega

/-- A fraction is read locally. -/
theorem isLocal_readFraction? : IsLocal readFraction? := by
  apply isLocal_of_head _ (fun s => some ([], s)) fun c =>
    if c = '.' then afterFirst fun s => (someDigits? (takeDigits s).1).map fun a => (a, (takeDigits s).2)
    else fun s => some ([], s)
  · exact isLocal_some []
  · intro c
    split
    · exact (isLocal_takeDigits someDigits?).afterFirst
    · exact isLocal_some []
  · rfl
  · intro c s
    by_cases hc : c = '.'
    · subst hc
      rw [if_pos rfl]
      show _ = (someDigits? (takeDigits s).1).map _
      rw [readFraction?]
      generalize takeDigits s = cut
      obtain ⟨_ | ⟨c, digits⟩, rest⟩ := cut
      · rfl
      · rfl
    · rw [if_neg hc]
      simp [readFraction?, hc]

/-- A sign is read locally. -/
theorem isLocal_readSign : IsLocal fun s => some (readSign s) := by
  apply isLocal_of_head _ (fun s => some (false, s))
    (fun c => if c = '-' then afterFirst fun s => some (true, s) else fun s => some (false, s))
  · exact isLocal_some false
  · intro c
    split
    · exact (isLocal_some true).afterFirst
    · exact isLocal_some false
  · rfl
  · intro c s
    by_cases hc : c = '-'
    · subst hc
      rfl
    · simp [readSign, hc]

/-- The sign of an exponent is read locally. -/
theorem isLocal_readExponentSign : IsLocal fun s => some (readExponentSign s) := by
  apply isLocal_of_head _ (fun s => some (false, s)) fun c =>
    if c = '+' then afterFirst fun s => some (false, s)
    else if c = '-' then afterFirst fun s => some (true, s)
    else fun s => some (false, s)
  · exact isLocal_some false
  · intro c
    split
    · exact (isLocal_some false).afterFirst
    · split
      · exact (isLocal_some true).afterFirst
      · exact isLocal_some false
  · rfl
  · intro c s
    by_cases hplus : c = '+'
    · subst hplus
      rfl
    · by_cases hminus : c = '-'
      · subst hminus
        rfl
      · simp [readExponentSign, hplus, hminus]

/-- The sign and the digits of an exponent. -/
def readExponentText? : Reader ExponentText :=
  andThen (fun s => some (readExponentSign s)) fun negative s =>
    ((someDigits? (takeDigits s).1).map (ExponentText.mk negative)).map fun a => (a, (takeDigits s).2)

/-- An exponent is read locally. -/
theorem isLocal_readExponent? : IsLocal readExponent? := by
  apply isLocal_of_head _ (fun s => some (none, s)) fun c =>
    if c = 'e' ∨ c = 'E' then afterFirst (mapReader some readExponentText?)
    else fun s => some (none, s)
  · exact isLocal_some none
  · intro c
    split
    · apply IsLocal.afterFirst
      apply IsLocal.mapReader
      apply isLocal_readExponentSign.andThen
      intro negative
      exact isLocal_takeDigits fun digits => (someDigits? digits).map (ExponentText.mk negative)
    · exact isLocal_some none
  · rfl
  · intro c s
    rw [readExponent?]
    split
    · show _ = (readExponentText? s).map _
      simp only [readExponentText?, andThen, Option.bind_some]
      generalize takeDigits (readExponentSign s).2 = cut
      obtain ⟨_ | ⟨c, digits⟩, rest⟩ := cut
      · rfl
      · rfl
    · rfl

/-- A number is read part by part. -/
theorem read?_eq : Literal.read? =
    andThen (fun s => some (readSign s)) fun negative =>
      andThen readWhole? fun whole =>
        andThen readFraction? fun fraction =>
          andThen readExponent? fun exponent s =>
            some (⟨negative, whole, fraction, exponent⟩, s) := by
  rfl

/-- The text of a number is read locally. -/
theorem isLocal_read? : IsLocal Literal.read? := by
  rw [read?_eq]
  apply isLocal_readSign.andThen
  intro negative
  apply isLocal_readWhole?.andThen
  intro whole
  apply isLocal_readFraction?.andThen
  intro fraction
  apply isLocal_readExponent?.andThen
  intro exponent
  exact isLocal_some _

/-- The text of a number is not empty. -/
theorem length_lt_of_read? (s rest : List Char) (literal : Literal)
    (h : Literal.read? s = some (literal, rest)) : rest.length < s.length := by
  simp only [read?_eq, andThen_eq_some_iff] at h
  obtain ⟨negative, s₁, hsign, whole, s₂, hwhole, fraction, s₃, hfraction, exponent, s₄, hexponent,
    hrest⟩ := h
  cases hrest
  have hlength₁ := isLocal_readSign.length_le _ _ _ _ hsign
  have hlength₂ := length_lt_of_readWhole? _ _ _ hwhole
  have hlength₃ := isLocal_readFraction?.length_le _ _ _ _ hfraction
  have hlength₄ := isLocal_readExponent?.length_le _ _ _ _ hexponent
  omega

end Numbers

section Strings

/-- No letter that is escaped by itself starts an escape by code point. -/
theorem ne_of_escapedChar? (letter c : Char) (h : escapedChar? letter = some c) : letter ≠ 'u' := by
  rintro rfl
  have hnone : escapedChar? 'u' = none := by decide
  rw [hnone] at h
  cases h

/-- A pair of escapes is read as its character. -/
theorem readStringFrom?_pair (front s : List Char) (a b c d e f g h : Char) (high low : Nat)
    (hhex : hexNumber? [a, b, c, d] = some high) (hhex' : hexNumber? [e, f, g, h] = some low)
    (hlow : isLowSurrogate high = false) (hhigh : isHighSurrogate high = true)
    (hlow' : isLowSurrogate low = true) :
    readStringFrom? front
        ('\\' :: 'u' :: a :: b :: c :: d :: '\\' :: 'u' :: e :: f :: g :: h :: s) =
      readStringFrom? (pairedChar high low :: front) s := by
  rw [readStringFrom?]
  simp only [hhex, hhex', hlow, hhigh, hlow', Bool.false_eq_true, if_false, if_true]

/-- Reading the inside of a string ends with its quote. -/
theorem isClosed_readStringFrom? (front : List Char) : IsClosed (readStringFrom? front) := by
  intro s
  fun_induction readStringFrom? front s
  case case3 front s =>
    rintro _ _ ⟨⟩
    exact ⟨['"'], List.cons_ne_nil _ _, rfl, fun _ => by rw [List.singleton_append, readStringFrom?]⟩
  case case7 front a b c d e f g h s high hhex hlow hhigh low hhex' hlow' ih =>
    exact IsClosedAt.of_token _ _ ['\\', 'u', a, b, c, d, '\\', 'u', e, f, g, h] s (fun t =>
      readStringFrom?_pair front t a b c d e f g h high low hhex hhex' (by simpa using hlow) hhigh
        hlow') ih
  case case9 front a b c d e f g h s unit hhex hlow hhigh ih =>
    exact IsClosedAt.of_token _ _ ['\\', 'u', a, b, c, d] _ (fun t =>
      readStringFrom?_unicode front t a b c d unit hhex (by simpa using hlow) (by simpa using hhigh)) ih
  case case12 front a b c d s _ unit hhex hsurrogate ih =>
    obtain ⟨hlow, hhigh⟩ := Bool.or_eq_false_iff.mp (Bool.not_eq_true _ ▸ hsurrogate)
    exact IsClosedAt.of_token _ _ ['\\', 'u', a, b, c, d] s (fun t =>
      readStringFrom?_unicode front t a b c d unit hhex hlow hhigh) ih
  case case14 front letter s _ _ c hc ih =>
    exact IsClosedAt.of_token _ _ ['\\', letter] s (fun t =>
      readStringFrom?_letter front t letter c (ne_of_escapedChar? letter c hc) hc) ih
  case case16 front c s hend hquote _ _ hescape hcontrol ih =>
    have hslash : c ≠ '\\' := by
      intro hc
      cases s with
      | nil => exact hend hc rfl
      | cons d s => exact hescape d s hc rfl
    exact IsClosedAt.of_token _ _ [c] s (fun t =>
      readStringFrom?_plain front t c hquote hslash hcontrol) ih
  -- In the other cases an escape is wrong, a control stands in the string, or the quote is missing.
  all_goals
    intro _ _ hread
    simp_all [readStringFrom?]

/-- An escape by one letter is passed over. -/
theorem skipStringBody?_letter (s : List Char) (letter : Char)
    (hletter : (escapedChar? letter).isSome = true) :
    skipStringBody? ('\\' :: letter :: s) = skipStringBody? s := by
  obtain ⟨c, hc⟩ := Option.isSome_iff_exists.mp hletter
  rw [skipStringBody?, if_pos hletter]
  intro _ _ _ _ _ hu
  exact absurd hu (ne_of_escapedChar? letter c hc)

/-- A character that needs no escape is passed over. -/
theorem skipStringBody?_plain (s : List Char) (c : Char) (hquote : c ≠ '"') (hslash : c ≠ '\\')
    (hcontrol : ¬ c.toNat < 0x20) : skipStringBody? (c :: s) = skipStringBody? s := by
  rw [skipStringBody?, if_neg hcontrol]
  case x_2 => exact hquote
  all_goals
    intros
    exact absurd ‹c = '\\'› hslash

/-- Passing over the inside of a string ends with its quote. -/
theorem isClosed_skipStringBody? : IsClosed (unitReader skipStringBody?) := by
  intro s
  fun_induction skipStringBody? s
  case case3 s =>
    rintro _ _ ⟨⟩
    exact ⟨['"'], List.cons_ne_nil _ _, rfl, fun _ => rfl⟩
  case case4 a b c d s hhex ih =>
    exact IsClosedAt.of_token _ _ ['\\', 'u', a, b, c, d] s (fun t => by
      simp only [unitReader, List.cons_append, List.nil_append, skipStringBody?, hhex, if_true]) ih
  case case6 letter s _ hletter ih =>
    exact IsClosedAt.of_token _ _ ['\\', letter] s (fun t =>
      congrArg (Option.map _) (skipStringBody?_letter t letter hletter)) ih
  case case9 c s hend hquote _ hescape hcontrol ih =>
    have hslash : c ≠ '\\' := by
      intro hc
      cases s with
      | nil => exact hend hc rfl
      | cons d s => exact hescape d s hc rfl
    exact IsClosedAt.of_token _ _ [c] s (fun t =>
      congrArg (Option.map _) (skipStringBody?_plain t c hquote hslash hcontrol)) ih
  all_goals
    intro _ _ hread
    simp_all [unitReader, skipStringBody?]

end Strings

section Members

variable {α : Type}

/-- Reads behind any space as the first character of the next token tells. -/
def byToken (onChar : Char → Reader α) : Reader α := fun s =>
  match skipSpace s with
  | [] => none
  | c :: s => onChar c (c :: s)

/-- Reading by the next token is local when it is for every token. -/
theorem isLocal_byToken (onChar : Char → Reader α) (h : ∀ c, IsLocal (onChar c)) :
    IsLocal (byToken onChar) := by
  apply isLocal_skipSpace fun s =>
    match s with
    | [] => none
    | c :: s => onChar c (c :: s)
  exact isLocal_of_head _ (fun _ => none) onChar isClosed_none.isLocal h rfl fun _ _ => rfl

/-- Reading by the next token is closed when it is for every token. -/
theorem isClosed_byToken (onChar : Char → Reader α) (h : ∀ c, IsClosed (onChar c)) :
    IsClosed (byToken onChar) := by
  apply isClosed_skipSpace fun s =>
    match s with
    | [] => none
    | c :: s => onChar c (c :: s)
  exact isClosed_of_head _ onChar h rfl fun _ _ => rfl

/-- Reading by the next token takes something when it does for every token. -/
theorem advances_byToken (onChar : Char → Reader α) (h : ∀ c, Advances (onChar c)) :
    Advances (byToken onChar) where
  isLocal := isLocal_byToken onChar fun c => (h c).isLocal
  shortens := by
    intro s a rest hread
    have hspace : (skipSpace s).length ≤ s.length := (List.dropWhile_sublist _).length_le
    rw [byToken] at hread
    cases hs : skipSpace s with
    | nil => simp only [hs, reduceCtorEq] at hread
    | cons c t =>
      rw [hs] at hread hspace
      exact Nat.lt_of_lt_of_le ((h c).shortens _ a rest hread) hspace

/-- Reads on behind a token, or else what stands in its place. -/
def orToken (token : Char) (reader other : Reader α) : Reader α := fun s =>
  match skipSpace s with
  | [] => other []
  | c :: s => if c = token then reader s else other (c :: s)

/-- A reader that reads on behind a token and otherwise reads what stands in its place. -/
theorem eq_orToken (f : Reader α) (token : Char) (reader other : Reader α)
    (htoken : ∀ s t, skipSpace s = token :: t → f s = reader t)
    (hother : ∀ s c t, skipSpace s = c :: t → c ≠ token → f s = other (c :: t))
    (hnil : ∀ s, skipSpace s = [] → f s = other []) : f = orToken token reader other := by
  funext s
  unfold orToken
  cases hs : skipSpace s with
  | nil => exact hnil s hs
  | cons c t =>
    by_cases hc : c = token
    · subst hc
      rw [htoken s t hs]
      exact (if_pos rfl).symm
    · rw [hother s c t hs hc]
      exact (if_neg hc).symm

/-- Reading on behind a token or what stands in its place is local. -/
theorem isLocal_orToken (token : Char) (reader other : Reader α) (h : IsLocal reader)
    (hother : IsLocal other) : IsLocal (orToken token reader other) := by
  apply isLocal_skipSpace fun s =>
    match s with
    | [] => other []
    | c :: s => if c = token then reader s else other (c :: s)
  apply isLocal_of_head _ other fun c => if c = token then afterFirst reader else other
  · exact hother
  · intro c
    split
    · exact h.afterFirst
    · exact hother
  · rfl
  · intro c s
    by_cases hc : c = token
    · simp only [if_pos hc, afterFirst_cons]
    · simp only [if_neg hc]

/-- Reads on behind a token that must be there. -/
def afterToken (token : Char) (reader : Reader α) : Reader α :=
  orToken token reader fun _ => none

/-- Reading on behind a token is local. -/
theorem isLocal_afterToken (token : Char) (reader : Reader α) (h : IsLocal reader) :
    IsLocal (afterToken token reader) :=
  isLocal_orToken _ _ _ h isClosed_none.isLocal

/-- Reading on behind a token is closed. -/
theorem isClosed_afterToken (token : Char) (reader : Reader α) (h : IsClosed reader) :
    IsClosed (afterToken token reader) := by
  apply isClosed_skipSpace fun s =>
    match s with
    | [] => none
    | c :: s => if c = token then reader s else none
  apply isClosed_of_head _ fun c => if c = token then afterFirst reader else fun _ => none
  · intro c
    split
    · exact h.afterFirst
    · exact isClosed_none
  · rfl
  · intro c s
    by_cases hc : c = token
    · simp only [if_pos hc, afterFirst_cons]
    · simp only [if_neg hc]

/-- A string is read locally. -/
theorem isLocal_readString? : IsLocal readString? := by
  have heq : readString? = afterToken '"' (mapReader String.ofList readStringBody?) := by
    apply eq_orToken
    · intro s t hs
      simp [readString?, hs, mapReader]
    · intro s c t hs hc
      simp [readString?, hs, hc]
    · intro s hs
      simp [readString?, hs]
  rw [heq]
  exact isLocal_afterToken _ _ ((isClosed_readStringFrom? []).isLocal.mapReader _ _)

/-- A colon is read locally. -/
theorem isLocal_readColon? : IsLocal (unitReader readColon?) := by
  have heq : unitReader readColon? = afterToken ':' fun s => some ((), s) := by
    apply eq_orToken
    · intro s t hs
      simp [unitReader, readColon?, hs]
    · intro s c t hs hc
      simp [unitReader, readColon?, hs, hc]
    · intro s hs
      simp [unitReader, readColon?, hs]
  rw [heq]
  exact isLocal_afterToken _ _ (isLocal_some ())

/-- A field is read locally when its value is, whatever its name. -/
theorem isLocal_readField? (value : String → Reader α) (h : ∀ name, IsLocal (value name)) :
    IsLocal (readField? value) := by
  have heq : readField? value =
      andThen readString? fun name => andThen (unitReader readColon?) fun _ => value name := by
    funext s
    simp only [readField?, andThen, unitReader, bind]
    cases readString? s with
    | none => rfl
    | some result =>
      simp only [Option.bind_some]
      cases readColon? result.2 with
      | none => rfl
      | some rest => rfl
  rw [heq]
  apply isLocal_readString?.andThen
  intro name
  apply isLocal_readColon?.andThen
  exact fun _ => h name

variable (close : Char) (member : Reader α)

/-- Further members are read behind the closing bracket or a comma. -/
theorem readMore?_cons (x : Char) (bound : List Char) (front : List α) :
    readMore? close member (x :: bound) front = byToken fun c =>
      if c = close then mapReader (fun _ => front.reverse) anyChar
      else if c = ',' then
        afterFirst (andThen member fun next => readMore? close member bound (next :: front))
      else fun _ => none := by
  funext s
  rw [readMore?, byToken]
  cases skipSpace s with
  | nil => rfl
  | cons c s =>
    dsimp only
    split
    · rfl
    · split
      · rw [afterFirst_cons, andThen]
        cases member s with
        | none => rfl
        | some result => rfl
      · rfl

/-- The further members end with the closing bracket. -/
theorem isClosed_readMore? (hmember : IsLocal member) (bound : List Char) (front : List α) :
    IsClosed (readMore? close member bound front) := by
  induction bound generalizing front with
  | nil => exact isClosed_none
  | cons x bound ih =>
    rw [readMore?_cons]
    apply isClosed_byToken
    intro c
    split
    · exact isClosed_anyChar.mapReader _ _
    · split
      · exact (hmember.andThen_isClosed _ _ fun next => ih (next :: front)).afterFirst
      · exact isClosed_none

/-- The number of further members is at most the length of their text. -/
theorem isBounded_readMore? (hmember : IsLocal member) (front : List α) :
    IsBounded fun bound => readMore? close member bound front := by
  intro bound
  induction bound generalizing front with
  | nil =>
    intro bound' s a rest h
    cases h
  | cons x bound ih =>
    intro bound' s a rest h hlength
    have hshorter := (isClosed_readMore? close member hmember (x :: bound) front).shortens _ _ _ _ h
    cases bound' with
    | nil =>
      rw [List.length_nil, Nat.zero_add] at hlength
      exact absurd hshorter (Nat.not_lt.mpr hlength)
    | cons y bound' =>
      have hspace : (skipSpace s).length ≤ s.length := (List.dropWhile_sublist _).length_le
      simp only [readMore?_cons, byToken] at h ⊢
      cases hs : skipSpace s with
      | nil => simp [hs] at h
      | cons c t =>
        rw [hs, List.length_cons] at hspace
        rw [List.length_cons] at hlength
        simp only [hs] at h ⊢
        by_cases hc : c = close
        · rw [if_pos hc] at h ⊢
          exact h
        · by_cases hcomma : c = ','
          · rw [if_neg hc, if_pos hcomma, afterFirst_cons, andThen_eq_some_iff] at h ⊢
            obtain ⟨next, t', hnext, hmore⟩ := h
            have hrest := hmember.length_le _ _ _ _ hnext
            exact ⟨next, t', hnext, ih (next :: front) bound' t' a rest hmore (by omega)⟩
          · rw [if_neg hc, if_neg hcomma] at h
            cases h

/-- The members between two brackets end with the closing one. -/
theorem isClosed_readMembers? (hmember : IsLocal member) : IsClosed (readMembers? close member) := by
  have hmore : ∀ first : α, IsClosed fun s => readMore? close member s [first] s := fun first =>
    IsClosed.of_bound _ (fun bound => isClosed_readMore? close member hmember bound [first])
      (isBounded_readMore? close member hmember [first])
  have heq : readMembers? close member = byToken fun c =>
      if c = close then mapReader (fun _ => []) anyChar
      else andThen member fun first s => readMore? close member s [first] s := by
    funext s
    rw [readMembers?, byToken]
    cases skipSpace s with
    | nil => rfl
    | cons c s =>
      dsimp only
      split
      · rfl
      · rw [andThen]
        cases member (c :: s) with
        | none => rfl
        | some result => rfl
  rw [heq]
  apply isClosed_byToken
  intro c
  split
  · exact isClosed_anyChar.mapReader _ _
  · exact hmember.andThen_isClosed _ _ hmore

/-- The further members are followed by their closing bracket. -/
theorem close_suffix_of_readMore? (hmember : IsLocal member) (bound s rest : List Char)
    (front items : List α) (h : readMore? close member bound front s = some (items, rest)) :
    close :: rest <:+ s := by
  induction bound generalizing front s with
  | nil => cases h
  | cons x bound ih =>
    have hspace : skipSpace s <:+ s := List.dropWhile_suffix _
    rw [readMore?] at h
    cases hs : skipSpace s with
    | nil => simp [hs] at h
    | cons c t =>
      rw [hs] at h hspace
      dsimp only at h
      split_ifs at h with hclose hcomma
      · cases h
        rwa [hclose] at hspace
      · cases hnext : member t with
        | none => simp [hnext] at h
        | some result =>
          simp only [hnext] at h
          obtain ⟨taken, rfl, -⟩ := hmember t _ _ hnext
          exact ((ih _ _ h).trans (List.suffix_append taken _)).trans
            ((List.suffix_cons c _).trans hspace)

/-- The members are followed by their closing bracket. -/
theorem close_suffix_of_readMembers? (hmember : IsLocal member) (s rest : List Char)
    (items : List α) (h : readMembers? close member s = some (items, rest)) :
    close :: rest <:+ s := by
  have hspace : skipSpace s <:+ s := List.dropWhile_suffix _
  rw [readMembers?] at h
  cases hs : skipSpace s with
  | nil => simp [hs] at h
  | cons c t =>
    rw [hs] at h hspace
    dsimp only at h
    split_ifs at h with hclose
    · cases h
      rwa [hclose] at hspace
    · cases hfirst : member (c :: t) with
      | none => simp [hfirst] at h
      | some result =>
        simp only [hfirst] at h
        obtain ⟨taken, htaken, -⟩ := hmember _ _ _ hfirst
        rw [htaken] at hspace
        exact ((close_suffix_of_readMore? close member hmember _ _ _ _ _ h).trans
          (List.suffix_append taken _)).trans hspace

end Members

section SkippedValues

/-- Passes over a scalar with a first character. -/
def skipScalarOf (c : Char) : Reader Unit :=
  if c = 'n' then afterFirst fun s => (after? ['u', 'l', 'l'] s).map fun rest => ((), rest)
  else if c = 't' then afterFirst fun s => (after? ['r', 'u', 'e'] s).map fun rest => ((), rest)
  else if c = 'f' then afterFirst fun s => (after? ['a', 'l', 's', 'e'] s).map fun rest => ((), rest)
  else if c = '"' then afterFirst (unitReader skipStringBody?)
  else mapReader (fun _ => ()) Literal.read?

/-- A scalar is passed over by its first character. -/
theorem unitReader_skipScalar?_cons (c : Char) (s : List Char) :
    unitReader skipScalar? (c :: s) = skipScalarOf c (c :: s) := by
  unfold skipScalarOf
  split_ifs with hnull htrue hfalse hquote
  · subst hnull
    rfl
  · subst htrue
    rfl
  · subst hfalse
    rfl
  · subst hquote
    rfl
  · simp [unitReader, skipScalar?, mapReader, hnull, htrue, hfalse, hquote, Option.map_map,
      Function.comp_def]

/-- Passing over a scalar takes something, whatever its first character. -/
theorem advances_skipScalarOf (c : Char) : Advances (skipScalarOf c) := by
  have hnumber : Advances Literal.read? :=
    ⟨isLocal_read?, fun s literal rest => length_lt_of_read? s rest literal⟩
  unfold skipScalarOf
  split_ifs
  · exact (isLocal_after? () _).advances_afterFirst
  · exact (isLocal_after? () _).advances_afterFirst
  · exact (isLocal_after? () _).advances_afterFirst
  · exact isClosed_skipStringBody?.isLocal.advances_afterFirst
  · exact hnumber.mapReader _ _

/-- The name of a field is passed over locally. -/
theorem isLocal_skipName? : IsLocal (unitReader skipName?) := by
  have heq : unitReader skipName? = afterToken '"'
      (andThen (unitReader skipStringBody?) fun _ => unitReader readColon?) := by
    apply eq_orToken
    · intro s t hs
      simp only [unitReader, skipName?, hs, andThen]
      cases skipStringBody? t with
      | none => rfl
      | some rest => rfl
    · intro s c t hs hc
      simp [unitReader, skipName?, hs, hc]
    · intro s hs
      simp [unitReader, skipName?, hs]
  rw [heq]
  apply isLocal_afterToken
  apply isClosed_skipStringBody?.isLocal.andThen
  exact fun _ => isLocal_readColon?

/-- One step of passing over a value: what may come next and the closing brackets that are missing
then. -/
def skipStep : Expected → List Char → Reader (Expected × List Char)
  | .separator, [] => fun _ => none
  | .separator, close :: closers => byToken fun c =>
    if c = close then afterFirst fun s => some ((.separator, closers), s)
    else if c = ',' then
      if close = '}' then
        afterFirst (mapReader (fun _ => (.value, close :: closers)) (unitReader skipName?))
      else afterFirst fun s => some ((.value, close :: closers), s)
    else fun _ => none
  | .value, closers => byToken fun c =>
    if c = '[' then
      afterFirst (orToken ']' (fun s => some ((.separator, closers), s))
        fun s => some ((.value, ']' :: closers), s))
    else if c = '{' then
      afterFirst (orToken '}' (fun s => some ((.separator, closers), s))
        (mapReader (fun _ => (.value, '}' :: closers)) (unitReader skipName?)))
    else mapReader (fun _ => (.separator, closers)) (skipScalarOf c)

/-- A step takes something. -/
theorem advances_skipStep (expected : Expected) (closers : List Char) :
    Advances (skipStep expected closers) := by
  match expected, closers with
  | .separator, [] => exact advances_none
  | .separator, close :: closers =>
    apply advances_byToken
    intro c
    split_ifs
    · exact (isLocal_some _).advances_afterFirst
    · exact (isLocal_skipName?.mapReader _ _).advances_afterFirst
    · exact (isLocal_some _).advances_afterFirst
    · exact advances_none
  | .value, closers =>
    apply advances_byToken
    intro c
    split_ifs
    · exact (isLocal_orToken _ _ _ (isLocal_some _) (isLocal_some _)).advances_afterFirst
    · have hname := isLocal_skipName?.mapReader fun _ => (Expected.value, '}' :: closers)
      exact (isLocal_orToken _ _ _ (isLocal_some _) hname).advances_afterFirst
    · exact (advances_skipScalarOf c).mapReader _ _

/-- Nothing is passed over when no bracket is missing. -/
theorem skipRest?_finished (bound s : List Char) : skipRest? bound .separator [] s = some s := by
  cases bound <;> rfl

/-- Behind a value, either its closing bracket is passed over or a comma and what must follow it. -/
theorem skipRest?_separator (x : Char) (bound : List Char) (close : Char) (closers : List Char) :
    unitReader (skipRest? (x :: bound) .separator (close :: closers)) =
      andThen (skipStep .separator (close :: closers)) fun next =>
        unitReader (skipRest? bound next.1 next.2) := by
  funext s
  rw [unitReader, skipRest?, skipStep, andThen, byToken]
  cases skipSpace s with
  | nil => rfl
  | cons c s =>
    dsimp only
    split_ifs
    · rfl
    · rw [afterFirst_cons, mapReader, unitReader]
      cases skipName? s with
      | none => rfl
      | some rest => rfl
    · rfl
    · rfl

/-- Where a value is expected, an opening bracket or a scalar is passed over; an opening bracket may
be closed at once. -/
theorem skipRest?_value (x : Char) (bound closers : List Char) :
    unitReader (skipRest? (x :: bound) .value closers) =
      andThen (skipStep .value closers) fun next => unitReader (skipRest? bound next.1 next.2) := by
  funext s
  rw [unitReader, skipRest?, skipStep, andThen, byToken]
  cases skipSpace s with
  | nil => rfl
  | cons c s =>
    dsimp only
    split_ifs with hlist hobject
    · subst hlist
      rw [afterFirst_cons, orToken]
      cases hs : skipSpace s with
      | nil => simp [hs, unitReader]
      | cons d t =>
        by_cases hd : d = ']'
        · subst hd
          simp [hs, unitReader]
        · simp [hs, hd, unitReader]
    · subst hobject
      rw [afterFirst_cons, orToken]
      cases hs : skipSpace s with
      | nil =>
        have hname : skipName? [] = none := rfl
        simp [hs, hname, mapReader, unitReader]
      | cons d t =>
        by_cases hd : d = '}'
        · subst hd
          simp [hs, unitReader]
        · cases hname : skipName? (d :: t) with
          | none => simp [hs, hd, hname, mapReader, unitReader]
          | some rest => simp [hs, hd, hname, mapReader, unitReader]
    · rw [mapReader, ← unitReader_skipScalar?_cons, unitReader]
      cases hscalar : skipScalar? (c :: s) with
      | none => simp [hlist, hobject, hscalar]
      | some rest => simp [hlist, hobject, hscalar, unitReader]

/-- A value is passed over step by step, as long as a value is expected or a bracket is missing. -/
theorem skipRest?_cons (x : Char) (bound : List Char) (expected : Expected) (closers : List Char)
    (hunfinished : expected = .separator → closers ≠ []) :
    unitReader (skipRest? (x :: bound) expected closers) =
      andThen (skipStep expected closers) fun next =>
        unitReader (skipRest? bound next.1 next.2) := by
  match expected, closers with
  | .separator, [] => exact absurd rfl (hunfinished rfl)
  | .separator, close :: closers => exact skipRest?_separator x bound close closers
  | .value, closers => exact skipRest?_value x bound closers

/-- A value is passed over locally, whatever is expected next. -/
theorem isLocal_skipRest? (bound : List Char) (expected : Expected) (closers : List Char) :
    IsLocal (unitReader (skipRest? bound expected closers)) := by
  induction bound generalizing expected closers with
  | nil =>
    match expected, closers with
    | .separator, [] => exact isLocal_some ()
    | .separator, _ :: _ => exact isClosed_none.isLocal
    | .value, _ => exact isClosed_none.isLocal
  | cons x bound ih =>
    by_cases hfinished : expected = .separator ∧ closers = []
    · obtain ⟨rfl, rfl⟩ := hfinished
      exact isLocal_some ()
    · rw [skipRest?_cons x bound expected closers fun h h' => hfinished ⟨h, h'⟩]
      exact (advances_skipStep expected closers).isLocal.andThen _ _ fun next => ih next.1 next.2

/-- The number of steps is at most the length of the text that is passed over. -/
theorem isBounded_skipRest? (expected : Expected) (closers : List Char) :
    IsBounded fun bound => unitReader (skipRest? bound expected closers) := by
  intro bound
  induction bound generalizing expected closers with
  | nil =>
    intro bound' s a rest h hlength
    match expected, closers with
    | .separator, [] => simpa only [unitReader, skipRest?_finished] using h
    | .separator, _ :: _ => cases h
    | .value, _ => cases h
  | cons x bound ih =>
    intro bound' s a rest h hlength
    by_cases hfinished : expected = .separator ∧ closers = []
    · obtain ⟨rfl, rfl⟩ := hfinished
      simpa only [unitReader, skipRest?_finished] using h
    · -- One step is taken from either bound, and what it passes over makes up for it.
      have hstep := fun y bound =>
        skipRest?_cons y bound expected closers fun h h' => hfinished ⟨h, h'⟩
      simp only [hstep, andThen_eq_some_iff] at h
      obtain ⟨next, s', hnext, hmore⟩ := h
      have hshorter := (advances_skipStep expected closers).shortens s next s' hnext
      have hrest := (isLocal_skipRest? bound next.1 next.2).length_le _ s' rest a hmore
      cases bound' with
      | nil =>
        rw [List.length_nil] at hlength
        omega
      | cons y bound' =>
        rw [List.length_cons] at hlength
        simp only [hstep, andThen_eq_some_iff]
        exact ⟨next, s', hnext, ih next.1 next.2 bound' s' a rest hmore (by omega)⟩

/-- A value is passed over locally, however deep it nests. -/
theorem isLocal_skipValue? : IsLocal (unitReader skipValue?) :=
  IsLocal.of_bound (fun bound => unitReader (skipRest? bound .value []))
    (fun bound => isLocal_skipRest? bound .value []) (isBounded_skipRest? .value [])

end SkippedValues

end UnityBuild.Json
