import UnityBuild.Proofs.Text.Front

/-!
# Readers that see one character ahead

A reader takes its value from the front of a text. It is local when the text that it takes gives the
same value in front of any other rest, as long as the next character stays the same: a number ends
where a character follows that cannot belong to it, so one character is looked at and not more. It
is closed when not even this character counts, because what it takes ends with a character of its
own. Readers that are put together from local ones are local.
-/

namespace UnityBuild.Text

variable {α β : Type}

/-- What is taken gives the same value in front of any rest with the same next character. -/
def IsLocal (reader : Reader α) : Prop :=
  ∀ s a rest, reader s = some (a, rest) →
    ∃ taken, s = taken ++ rest ∧
      ∀ rest' : List Char, rest'.head? = rest.head? → reader (taken ++ rest') = some (a, rest')

/-- Something is taken from this text, and it gives the same value in front of any rest. -/
def IsClosedAt (reader : Reader α) (s : List Char) : Prop :=
  ∀ a rest, reader s = some (a, rest) →
    ∃ taken, taken ≠ [] ∧ s = taken ++ rest ∧
      ∀ rest' : List Char, reader (taken ++ rest') = some (a, rest')

/-- Something is taken from every text, and it gives the same value in front of any rest. -/
def IsClosed (reader : Reader α) : Prop :=
  ∀ s, IsClosedAt reader s

/-- A closed reader is local. -/
theorem IsClosed.isLocal (reader : Reader α) (h : IsClosed reader) : IsLocal reader := by
  intro s a rest hread
  obtain ⟨taken, -, hs, hsame⟩ := h s a rest hread
  exact ⟨taken, hs, fun rest' _ => hsame rest'⟩

/-- What follows the text that a closed reader reads from is left over. -/
theorem IsClosed.append (reader : Reader α) (h : IsClosed reader) (s rest more : List Char) (a : α)
    (hread : reader s = some (a, rest)) : reader (s ++ more) = some (a, rest ++ more) := by
  obtain ⟨taken, -, rfl, hsame⟩ := h s a rest hread
  rw [List.append_assoc]
  exact hsame (rest ++ more)

/-- A text that a closed reader reads as a whole is not read when it is cut off. -/
theorem IsClosed.eq_none_of_prefix (reader : Reader α) (h : IsClosed reader) (s cut : List Char)
    (a : α) (hread : reader s = some (a, [])) (hcut : cut <+: s) (hne : cut ≠ s) :
    reader cut = none := by
  obtain ⟨lost, rfl⟩ := hcut
  cases hcut : reader cut with
  | none => rfl
  | some result =>
    -- The cut text would be read in front of what was lost, too, and leave all of it over.
    have hboth := h.append reader cut result.2 lost result.1 hcut
    rw [hread, Option.some.injEq, Prod.mk.injEq] at hboth
    have hlost : lost = [] := (List.append_eq_nil_iff.mp hboth.2.symm).2
    rw [hlost, List.append_nil] at hne
    exact absurd rfl hne

/-- Two texts that go on alike behind the same part start alike. -/
theorem head?_append_congr (taken rest rest' : List Char) (h : rest'.head? = rest.head?) :
    (taken ++ rest').head? = (taken ++ rest).head? := by
  rw [List.head?_append, List.head?_append, h]

/-- Texts that go on behind the same part, which is not empty, start alike. -/
theorem head?_append_eq (taken rest rest' : List Char) (h : taken ≠ []) :
    (taken ++ rest').head? = (taken ++ rest).head? := by
  rw [List.head?_append_of_ne_nil _ h, List.head?_append_of_ne_nil _ h]

section Sequence

/-- Reads by one reader and then by another, which may depend on what was read. -/
def andThen (reader : Reader α) (next : α → Reader β) : Reader β := fun s =>
  (reader s).bind fun result => next result.1 result.2

/-- What one reader reads and then another. -/
theorem andThen_eq_some_iff (reader : Reader α) (next : α → Reader β) (s rest : List Char) (b : β) :
    andThen reader next s = some (b, rest) ↔
      ∃ a s', reader s = some (a, s') ∧ next a s' = some (b, rest) := by
  rw [andThen, Option.bind_eq_some_iff, Prod.exists]

variable (reader : Reader α) (next : α → Reader β)

/-- Local readers one after the other are local. -/
theorem IsLocal.andThen (h : IsLocal reader) (hnext : ∀ a, IsLocal (next a)) :
    IsLocal (andThen reader next) := by
  intro s b rest hread
  obtain ⟨a, s', hfirst, hsecond⟩ := (andThen_eq_some_iff reader next s rest b).mp hread
  obtain ⟨taken, hs, hsame⟩ := h s a s' hfirst
  obtain ⟨taken', hs', hsame'⟩ := hnext a s' b rest hsecond
  subst hs'
  refine ⟨taken ++ taken', ?_, ?_⟩
  · rw [hs, List.append_assoc]
  · intro rest' hrest'
    rw [List.append_assoc, andThen_eq_some_iff]
    exact ⟨a, _, hsame _ (head?_append_congr taken' rest rest' hrest'), hsame' rest' hrest'⟩

/-- A closed reader behind a local one is closed. -/
theorem IsLocal.andThen_isClosed (h : IsLocal reader) (hnext : ∀ a, IsClosed (next a)) :
    IsClosed (Text.andThen reader next) := by
  intro s b rest hread
  obtain ⟨a, s', hfirst, hsecond⟩ := (andThen_eq_some_iff reader next s rest b).mp hread
  obtain ⟨taken, hs, hsame⟩ := h s a s' hfirst
  obtain ⟨taken', hne, hs', hsame'⟩ := hnext a s' b rest hsecond
  subst hs'
  refine ⟨taken ++ taken', List.append_ne_nil_of_right_ne_nil _ hne, ?_, ?_⟩
  · rw [hs, List.append_assoc]
  · intro rest'
    rw [List.append_assoc, andThen_eq_some_iff]
    exact ⟨a, _, hsame _ (head?_append_eq taken' rest rest' hne), hsame' rest'⟩

end Sequence

section Leaves

/-- Taking nothing is local. -/
theorem isLocal_some (a : α) : IsLocal fun s => some (a, s) := by
  rintro s _ _ ⟨⟩
  exact ⟨[], rfl, fun _ _ => rfl⟩

/-- A reader that fails is closed. -/
theorem isClosed_none : IsClosed fun _ => (none : Option (α × List Char)) := by
  intro s a rest h
  cases h

/-- A value that may be missing is read locally from no text. -/
theorem isLocal_map_some (a? : Option α) : IsLocal fun s => a?.map fun a => (a, s) := by
  cases a? with
  | none => exact isClosed_none.isLocal
  | some a => exact isLocal_some a

/-- A reader that passes over a token and reads on is closed when what it reads on by is. -/
theorem IsClosedAt.of_token (reader next : Reader α) (token s : List Char)
    (hstep : ∀ t, reader (token ++ t) = next t) (h : IsClosedAt next s) :
    IsClosedAt reader (token ++ s) := by
  intro a rest hread
  rw [hstep] at hread
  obtain ⟨taken, hne, hs, hsame⟩ := h a rest hread
  refine ⟨token ++ taken, List.append_ne_nil_of_right_ne_nil _ hne, ?_, ?_⟩
  · rw [hs, List.append_assoc]
  · intro rest'
    rw [List.append_assoc, hstep, hsame]

/-- Takes one character, whatever it is. -/
def anyChar : Reader Char
  | [] => none
  | c :: s => some (c, s)

/-- Taking one character is closed. -/
theorem isClosed_anyChar : IsClosed anyChar := by
  intro s a rest h
  cases s with
  | nil => cases h
  | cons c s =>
    cases h
    exact ⟨[a], List.cons_ne_nil _ _, rfl, fun _ => rfl⟩

/-- Taking a fixed text is local. -/
theorem isLocal_after? (a : α) (literal : List Char) :
    IsLocal fun s => (after? literal s).map fun rest => (a, rest) := by
  intro s b rest h
  obtain ⟨rest, hafter, h⟩ := Option.map_eq_some_iff.mp h
  cases h
  refine ⟨literal, (after?_eq_some_iff literal s rest).mp hafter, ?_⟩
  intro rest' _
  show (after? literal (literal ++ rest')).map _ = _
  rw [(after?_eq_some_iff literal _ rest').mpr rfl, Option.map_some]

/-- Taking a run of a class is local: the next character ends it. -/
theorem isLocal_takeWhile (p : Char → Bool) : IsLocal fun s => some (s.takeWhile p, s.dropWhile p) := by
  rintro s _ _ ⟨⟩
  refine ⟨s.takeWhile p, List.takeWhile_append_dropWhile.symm, ?_⟩
  intro rest' hrest'
  have hrun : ∀ c ∈ s.takeWhile p, p c = true := fun c hc => List.mem_takeWhile_imp hc
  have hnone : rest'.takeWhile p = [] ∧ rest'.dropWhile p = rest' := by
    cases rest' with
    | nil => exact ⟨rfl, rfl⟩
    | cons c rest' =>
      have hc : p c = false := by
        have hhead := List.head?_dropWhile_not p s
        rw [← hrest'] at hhead
        simpa using hhead
      exact ⟨List.takeWhile_cons_of_neg (by simp [hc]), List.dropWhile_cons_of_neg (by simp [hc])⟩
  show some (List.takeWhile p _, List.dropWhile p _) = _
  rw [List.takeWhile_append_of_pos hrun, List.dropWhile_append_of_pos hrun, hnone.1, hnone.2,
    List.append_nil]

end Leaves

section Branches

/-- A reader that does on each first character what some local reader does is local. -/
theorem isLocal_of_head (reader onEmpty : Reader α) (onChar : Char → Reader α)
    (hempty : IsLocal onEmpty) (hchar : ∀ c, IsLocal (onChar c)) (hnil : reader [] = onEmpty [])
    (hcons : ∀ c s, reader (c :: s) = onChar c (c :: s)) : IsLocal reader := by
  -- The text in front of another rest starts alike, so it is read by the same reader.
  have hchoice : ∀ s : List Char, ∃ r, IsLocal r ∧ ∀ s', s'.head? = s.head? → reader s' = r s' := by
    intro s
    cases s with
    | nil =>
      refine ⟨onEmpty, hempty, fun s' hs' => ?_⟩
      rw [List.head?_eq_none_iff.mp hs', hnil]
    | cons c s =>
      refine ⟨onChar c, hchar c, fun s' hs' => ?_⟩
      obtain ⟨t, rfl⟩ := List.head?_eq_some_iff.mp hs'
      exact hcons c t
  intro s a rest hread
  obtain ⟨r, hr, hsame⟩ := hchoice s
  rw [hsame s rfl] at hread
  obtain ⟨taken, hs, htaken⟩ := hr s a rest hread
  refine ⟨taken, hs, fun rest' hrest' => ?_⟩
  rw [hsame _ (by rw [hs]; exact head?_append_congr taken rest rest' hrest')]
  exact htaken rest' hrest'

/-- A reader that fails on the empty text and does on each first character what some closed reader
does is closed. -/
theorem isClosed_of_head (reader : Reader α) (onChar : Char → Reader α)
    (hchar : ∀ c, IsClosed (onChar c)) (hnil : reader [] = none)
    (hcons : ∀ c s, reader (c :: s) = onChar c (c :: s)) : IsClosed reader := by
  intro s a rest hread
  cases s with
  | nil =>
    rw [hnil] at hread
    cases hread
  | cons c s =>
    rw [hcons] at hread
    obtain ⟨taken, hne, hs, hsame⟩ := hchar c _ a rest hread
    refine ⟨taken, hne, hs, fun rest' => ?_⟩
    obtain ⟨d, taken, rfl⟩ := List.exists_cons_of_ne_nil hne
    obtain rfl : c = d := (List.cons.inj hs).1
    rw [List.cons_append, hcons, ← List.cons_append]
    exact hsame rest'

/-- Drops the first character and reads on. -/
def afterFirst (reader : Reader α) : Reader α :=
  andThen anyChar fun _ => reader

/-- Reading on behind the first character. -/
theorem afterFirst_cons (reader : Reader α) (c : Char) (s : List Char) :
    afterFirst reader (c :: s) = reader s := by
  rfl

/-- Reading on behind the first character is local. -/
theorem IsLocal.afterFirst (reader : Reader α) (h : IsLocal reader) : IsLocal (afterFirst reader) :=
  isClosed_anyChar.isLocal.andThen _ _ fun _ => h

/-- Reading on behind the first character is closed. -/
theorem IsClosed.afterFirst (reader : Reader α) (h : IsClosed reader) :
    IsClosed (Text.afterFirst reader) :=
  isClosed_anyChar.isLocal.andThen_isClosed _ _ fun _ => h

/-- Mapping the value of a local reader is local. -/
theorem IsLocal.mapReader (f : α → β) (reader : Reader α) (h : IsLocal reader) :
    IsLocal (mapReader f reader) := by
  intro s b rest hread
  obtain ⟨⟨a, s'⟩, hfirst, hb⟩ := Option.map_eq_some_iff.mp hread
  cases hb
  obtain ⟨taken, hs, hsame⟩ := h s a rest hfirst
  refine ⟨taken, hs, fun rest' hrest' => ?_⟩
  rw [Text.mapReader, hsame rest' hrest', Option.map_some]

/-- Mapping the value of a closed reader is closed. -/
theorem IsClosed.mapReader (f : α → β) (reader : Reader α) (h : IsClosed reader) :
    IsClosed (Text.mapReader f reader) := by
  intro s b rest hread
  obtain ⟨⟨a, s'⟩, hfirst, hb⟩ := Option.map_eq_some_iff.mp hread
  cases hb
  obtain ⟨taken, hne, hs, hsame⟩ := h s a rest hfirst
  refine ⟨taken, hne, hs, fun rest' => ?_⟩
  rw [Text.mapReader, hsame rest', Option.map_some]

end Branches

section Lengths

/-- Every text that is read from leaves a shorter one. -/
def Shortens (reader : Reader α) : Prop :=
  ∀ s a rest, reader s = some (a, rest) → rest.length < s.length

/-- A closed reader leaves a shorter text. -/
theorem IsClosed.shortens (reader : Reader α) (h : IsClosed reader) : Shortens reader := by
  intro s a rest hread
  obtain ⟨taken, hne, rfl, -⟩ := h s a rest hread
  rw [List.length_append]
  exact Nat.lt_add_of_pos_left (List.length_pos_iff.mpr hne)

/-- A local reader leaves a text that is not longer. -/
theorem IsLocal.length_le (reader : Reader α) (h : IsLocal reader) (s rest : List Char) (a : α)
    (hread : reader s = some (a, rest)) : rest.length ≤ s.length := by
  obtain ⟨taken, rfl, -⟩ := h s a rest hread
  rw [List.length_append]
  exact Nat.le_add_left _ _

/-- A local reader that takes something from every text. -/
structure Advances (reader : Reader α) : Prop where
  isLocal : IsLocal reader
  shortens : Shortens reader

/-- A reader that fails takes nothing from any text. -/
theorem advances_none : Advances fun _ => (none : Option (α × List Char)) where
  isLocal := isClosed_none.isLocal
  shortens := isClosed_none.shortens

/-- A local reader behind the first character takes this character. -/
theorem IsLocal.advances_afterFirst (reader : Reader α) (h : IsLocal reader) :
    Advances (Text.afterFirst reader) where
  isLocal := h.afterFirst
  shortens := by
    intro s a rest hread
    cases s with
    | nil => cases hread
    | cons c s => exact Nat.lt_succ_of_le (h.length_le _ _ _ _ hread)

/-- Mapping the value takes the same text. -/
theorem Advances.mapReader (f : α → β) (reader : Reader α) (h : Advances reader) :
    Advances (Text.mapReader f reader) where
  isLocal := h.isLocal.mapReader f
  shortens := by
    intro s b rest hread
    obtain ⟨⟨a, s'⟩, hfirst, hb⟩ := Option.map_eq_some_iff.mp hread
    cases hb
    exact h.shortens s a rest hfirst

end Lengths

section Bounds

/-- Whatever bound a reader needs, one that is as long as the text that it takes will do. -/
def IsBounded (reader : List Char → Reader α) : Prop :=
  ∀ bound bound' s a rest, reader bound s = some (a, rest) →
    s.length ≤ bound'.length + rest.length → reader bound' s = some (a, rest)

variable (reader : List Char → Reader α)

/-- A local reader that is bounded by the text itself is local. -/
theorem IsLocal.of_bound (hlocal : ∀ bound, IsLocal (reader bound)) (hbounded : IsBounded reader) :
    IsLocal fun s => reader s s := by
  intro s a rest hread
  obtain ⟨taken, hs, hsame⟩ := hlocal s s a rest hread
  exact ⟨taken, hs, fun rest' hrest' =>
    hbounded s _ _ a rest' (hsame rest' hrest') (Nat.le_add_right _ _)⟩

/-- A closed reader that is bounded by the text itself is closed. -/
theorem IsClosed.of_bound (hclosed : ∀ bound, IsClosed (reader bound)) (hbounded : IsBounded reader) :
    IsClosed fun s => reader s s := by
  intro s a rest hread
  obtain ⟨taken, hne, hs, hsame⟩ := hclosed s s a rest hread
  exact ⟨taken, hne, hs, fun rest' =>
    hbounded s _ _ a rest' (hsame rest') (Nat.le_add_right _ _)⟩

end Bounds

end UnityBuild.Text
