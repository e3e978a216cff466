import UnityBuild.Diagnostic.Reader
import UnityBuild.Proofs.Json.Locality

/-!
# What follows the diagnostics

The compiler may write other text behind its list of diagnostics, and its output may be cut off.
The list is read up to its own closing bracket: what follows it has no effect, and a list that is
cut off is not read as a shorter one.

The reader of the list is closed, since all fields below it are read locally; the levels of
children are counted down by the depth that is left.

Main statement: `parse_append_and_cut`.
-/

namespace UnityBuild

open Text

namespace Json

variable {α : Type}

/-- A list of items that are read locally ends with its closing bracket. -/
theorem isClosed_readList (item : Reader α) (h : IsLocal item) :
    IsClosed fun s =>
      match skipSpace s with
      | '[' :: s => readMembers? ']' item s
      | _ => none := by
  have heq : (fun s =>
      match skipSpace s with
      | '[' :: s => readMembers? ']' item s
      | _ => none) = afterToken '[' (readMembers? ']' item) := by
    apply eq_orToken
    · intro s t hs
      simp [hs]
    · intro s c t hs hc
      simp [hs, hc]
    · intro s hs
      simp [hs]
  rw [heq]
  exact isClosed_afterToken _ _ (isClosed_readMembers? ']' item h)

/-- A list ends with its closing bracket, at any depth. -/
theorem isClosed_readListAt? (depth : Nat) (item : Nat → Reader α) (h : ∀ depth, IsLocal (item depth)) :
    IsClosed (readListAt? depth item) := by
  cases depth with
  | zero =>
    have heq : readListAt? 0 item = fun _ => none := by
      funext s
      simp [readListAt?]
    rw [heq]
    exact isClosed_none
  | succ depth =>
    have heq : readListAt? (depth + 1) item = fun s =>
        match skipSpace s with
        | '[' :: s => readMembers? ']' (item depth) s
        | _ => none := by
      funext s
      unfold readListAt?
      cases skipSpace s with
      | nil => rfl
      | cons c s =>
        by_cases hc : c = '['
        · subst hc
          rfl
        · simp [hc]
    rw [heq]
    exact isClosed_readList (item depth) (h depth)

/-- A list that is read stands between its brackets. -/
theorem exists_brackets_of_readListAt? (depth : Nat) (item : Nat → Reader α)
    (hitem : ∀ depth, IsLocal (item depth)) (s rest : List Char) (items : List α)
    (h : readListAt? depth item s = some (items, rest)) :
    ∃ inside, skipSpace s = '[' :: (inside ++ ']' :: rest) := by
  unfold readListAt? at h
  split at h
  case h_1 s' depth hs =>
    obtain ⟨inside, hinside⟩ :=
      close_suffix_of_readMembers? ']' (item depth) (hitem depth) s' rest items h
    exact ⟨inside, by rw [hs, hinside]⟩
  case h_2 => cases h

section Slots

/-- Reads one value and the others behind it. -/
def readCons? (first : Reader α) (others : Reader (List α)) : Reader (List α) := fun s => do
  let (first, s) ← first s
  let (others, s) ← others s
  return (first :: others, s)

/-- One value and the others behind it are read locally. -/
theorem isLocal_readCons? (first : Reader α) (others : Reader (List α)) (hfirst : IsLocal first)
    (hothers : IsLocal others) : IsLocal (readCons? first others) := by
  have heq : readCons? first others = andThen first fun a => mapReader (a :: ·) others := by
    funext s
    simp only [readCons?, andThen, mapReader, Option.map_eq_bind]
    rfl
  rw [heq]
  exact hfirst.andThen _ _ fun a => hothers.mapReader _ _

/-- Further fields in order are read locally. -/
theorem isLocal_readSlots? (slots : List (Reader α)) (h : ∀ slot ∈ slots, IsLocal slot) :
    IsLocal (readSlots? slots) := by
  induction slots with
  | nil =>
    have heq : readSlots? ([] : List (Reader α)) = afterToken ']' fun s => some ([], s) := by
      apply eq_orToken
      · intro s t hs
        simp [readSlots?, hs]
      · intro s c t hs hc
        simp [readSlots?, hs, hc]
      · intro s hs
        simp [readSlots?, hs]
    rw [heq]
    exact isLocal_afterToken _ _ (isLocal_some [])
  | cons slot slots ih =>
    have heq : readSlots? (slot :: slots) = byToken fun c =>
        if c = ']' then afterFirst fun s => some ([], s)
        else if c = ',' then
          afterFirst (readCons? slot (readSlots? slots))
        else fun _ => none := by
      funext s
      rw [readSlots?, byToken]
      cases skipSpace s with
      | nil => rfl
      | cons c s =>
        by_cases hclose : c = ']'
        · subst hclose
          rfl
        · by_cases hcomma : c = ','
          · subst hcomma
            rfl
          · simp [hclose, hcomma]
    rw [heq]
    have hmore := ih fun slot hslot => h slot (List.mem_cons_of_mem _ hslot)
    apply isLocal_byToken
    intro c
    split_ifs
    · exact (isLocal_some []).afterFirst
    · exact (isLocal_readCons? _ _ (h slot List.mem_cons_self) hmore).afterFirst
    · exact isClosed_none.isLocal

/-- The fields of an object that is written as a list are read locally. -/
theorem isLocal_readTuple? (slots : List (Reader α)) (h : ∀ slot ∈ slots, IsLocal slot) :
    IsLocal (readTuple? slots) := by
  cases slots with
  | nil => exact isLocal_readSlots? [] h
  | cons slot slots =>
    have heq : readTuple? (slot :: slots) =
        orToken ']' (fun s => some ([], s)) (readCons? slot (readSlots? slots)) := by
      apply eq_orToken
      · intro s t hs
        simp [readTuple?, hs]
      · intro s c t hs hc
        simp [readTuple?, readCons?, hs, hc]
      · intro s hs
        simp [readTuple?, readCons?, hs]
    rw [heq]
    have hmore := isLocal_readSlots? slots fun slot hslot => h slot (List.mem_cons_of_mem _ hslot)
    apply isLocal_orToken _ _ _ (isLocal_some [])
    exact isLocal_readCons? _ _ (h slot List.mem_cons_self) hmore

/-- The fields of an object are read locally, written with names or in order. -/
theorem isLocal_readFieldsAt? (depth : Nat) (named : Nat → String → Reader α)
    (slots : Nat → List (Reader α)) (hnamed : ∀ depth name, IsLocal (named depth name))
    (hslots : ∀ depth, ∀ slot ∈ slots depth, IsLocal slot) :
    IsLocal (readFieldsAt? depth named slots) := by
  cases depth with
  | zero =>
    have heq : readFieldsAt? 0 named slots = fun _ => none := by
      funext s
      simp [readFieldsAt?]
    rw [heq]
    exact isClosed_none.isLocal
  | succ depth =>
    have heq : readFieldsAt? (depth + 1) named slots = byToken fun c =>
        if c = '{' then afterFirst (readMembers? '}' (readField? (named depth)))
        else if c = '[' then afterFirst (readTuple? (slots depth))
        else fun _ => none := by
      funext s
      unfold readFieldsAt? byToken
      cases skipSpace s with
      | nil => rfl
      | cons c s =>
        by_cases hobject : c = '{'
        · subst hobject
          rfl
        · by_cases hlist : c = '['
          · subst hlist
            rfl
          · simp [hobject, hlist]
    rw [heq]
    apply isLocal_byToken
    intro c
    split_ifs
    · exact (isClosed_readMembers? _ _ (isLocal_readField? _ (hnamed depth))).isLocal.afterFirst
    · exact (isLocal_readTuple? _ (hslots depth)).afterFirst
    · exact isClosed_none.isLocal

end Slots

/-- A value that may be null is read locally. -/
theorem isLocal_readNullable? (value : Reader α) (h : IsLocal value) :
    IsLocal (readNullable? value) := by
  have heq : readNullable? value =
      orToken 'n' (fun s => (after? ['u', 'l', 'l'] s).map fun rest => (none, rest))
        (mapReader some value) := by
    apply eq_orToken
    · intro s t hs
      simp [readNullable?, hs]
    · intro s c t hs hc
      simp [readNullable?, mapReader, hs, hc]
    · intro s hs
      simp [readNullable?, mapReader, hs]
  rw [heq]
  exact isLocal_orToken _ _ _ (isLocal_after? none _) (h.mapReader _ _)

/-- A whole number is read locally. -/
theorem isLocal_readNatural? (max : Nat) : IsLocal (readNatural? max) := by
  intro s n rest h
  obtain ⟨⟨literal, after⟩, hread, hvalue⟩ := Option.bind_eq_some_iff.mp h
  obtain ⟨taken, hs, hsame⟩ := isLocal_skipSpace _ isLocal_read? s literal after hread
  dsimp only at hvalue
  split at hvalue
  · rename_i m hm
    split_ifs at hvalue with hmax
    cases hvalue
    refine ⟨taken, hs, fun rest' hrest' => ?_⟩
    refine Option.bind_eq_some_iff.mpr ⟨_, hsame rest' hrest', ?_⟩
    simp only [hm, if_pos hmax]
  · cases hvalue

end Json

namespace Diagnostic

open Json

/-- A field that is not known is passed over locally. -/
theorem isLocal_skipField {α : Type} (other : α) : IsLocal (skipField other) :=
  isLocal_skipValue?.mapReader _ _

/-- What is put together from fields that are read locally is read locally. -/
theorem isLocal_assembled {α β : Type} (reader : Reader α) (assemble : α → Option β)
    (h : IsLocal reader) :
    IsLocal fun s => do
      let (fields, rest) ← reader s
      let value ← assemble fields
      return (value, rest) := by
  apply h.andThen _ fun fields rest => (assemble fields).bind fun value => some (value, rest)
  intro fields
  cases assemble fields with
  | none => exact isClosed_none.isLocal
  | some value => exact isLocal_some value

/-- A position is read locally. -/
theorem isLocal_readPosition? (depth : Nat) : IsLocal (readPosition? depth) := by
  have hfile := isLocal_readString?.mapReader PositionField.file
  have hline := (isLocal_readNatural? maxCoordinate).mapReader PositionField.line
  have hcolumn := (isLocal_readNatural? maxCoordinate).mapReader PositionField.column
  apply isLocal_assembled _ assemblePosition?
  apply isLocal_readFieldsAt?
  · intro _ name
    split_ifs
    · exact hfile
    · exact hline
    · exact hcolumn
    · exact isLocal_skipField _
  · simp [hfile, hline, hcolumn]

/-- A location is read locally. -/
theorem isLocal_readLocation? (depth : Nat) : IsLocal (readLocation? depth) := by
  have hcaret : ∀ depth,
      IsLocal (mapReader LocationField.caret (readNullable? (readPosition? depth))) := fun depth =>
    (isLocal_readNullable? _ (isLocal_readPosition? depth)).mapReader _ _
  have hfields : IsLocal (readFieldsAt? depth
      (fun depth name =>
        if name = "caret" then mapReader LocationField.caret (readNullable? (readPosition? depth))
        else skipField .other)
      fun depth => [mapReader LocationField.caret (readNullable? (readPosition? depth))]) := by
    apply isLocal_readFieldsAt?
    · intro depth name
      split_ifs
      · exact hcaret depth
      · exact isLocal_skipField _
    · simp [hcaret]
  intro s location rest h
  obtain ⟨⟨fields, after⟩, hread, hmade⟩ := Option.bind_eq_some_iff.mp h
  obtain ⟨caret, hone, hlocation⟩ := Option.bind_eq_some_iff.mp hmade
  cases hlocation
  obtain ⟨taken, hs, hsame⟩ := hfields s fields rest hread
  refine ⟨taken, hs, fun rest' hrest' => ?_⟩
  exact Option.bind_eq_some_iff.mpr
    ⟨_, hsame rest' hrest', Option.bind_eq_some_iff.mpr ⟨caret, hone, rfl⟩⟩

/-- A diagnostic is read locally when those below it are. -/
theorem isLocal_readWith? (depth : Nat) (children : Reader (List Diagnostic))
    (h : IsLocal children) : IsLocal (readWith? depth children) := by
  have hkind := isLocal_readString?.mapReader Field.kind
  have hmessage := isLocal_readString?.mapReader Field.message
  have hlocations : ∀ depth,
      IsLocal (mapReader Field.locations (readListAt? depth readLocation?)) := fun depth =>
    (isClosed_readListAt? depth _ isLocal_readLocation?).isLocal.mapReader _ _
  have hchildren := h.mapReader Field.children
  apply isLocal_assembled _ assemble?
  apply isLocal_readFieldsAt?
  · intro depth name
    split_ifs
    · exact hkind
    · exact hmessage
    · exact hlocations depth
    · exact hchildren
    · exact isLocal_skipField _
  · simp [hkind, hmessage, hlocations, hchildren]

/-- A diagnostic is read locally, whatever depth is left. -/
theorem isLocal_read? (depth : Nat) : IsLocal (read? depth) := by
  induction depth using read?.induct with
  | case1 => exact isClosed_none.isLocal
  | case2 => exact isLocal_readWith? 1 _ isClosed_none.isLocal
  | case3 depth ih =>
    apply isLocal_readWith?
    exact (isClosed_readList (read? depth) ih).isLocal

/-- A list of diagnostics ends with its closing bracket. -/
theorem isClosed_readStream? : IsClosed readStream? :=
  isClosed_readListAt? maxDepth _ isLocal_read?

/-- The space between tokens is blank. -/
theorem isBlank_of_isSpace (c : Char) (h : isSpace c = true) : isBlank c = true := by
  simp only [isSpace, Bool.or_eq_true, beq_iff_eq] at h
  rcases h with ((rfl | rfl) | rfl) | rfl <;> decide

/-- No space stands in front of a trimmed text. -/
theorem skipSpace_trim (s : List Char) : skipSpace (trim s) = trim s := by
  cases hs : trim s with
  | nil => rfl
  | cons c t =>
    have hc := isBlank_of_trim_eq_cons s t c hs
    apply List.dropWhile_cons_of_neg
    intro hspace
    rw [isBlank_of_isSpace c hspace] at hc
    cases hc

/-- The list in a trimmed text stands at its start, between brackets. -/
theorem exists_brackets_of_readStream? (s rest : List Char) (diagnostics : List Diagnostic)
    (h : readStream? (trim s) = some (diagnostics, rest)) :
    ∃ inside, trim s = '[' :: (inside ++ [']']) ++ rest := by
  obtain ⟨inside, hinside⟩ := exists_brackets_of_readListAt? _ _ isLocal_read? _ _ _ h
  refine ⟨inside, ?_⟩
  rw [← skipSpace_trim, hinside, List.cons_append, List.append_assoc, List.singleton_append]

/-- What is not blank is a stream exactly when a list stands at its start. -/
theorem parse_eq_ok_iff (stream : String) (diagnostics : List Diagnostic)
    (h : trim stream.toList ≠ []) :
    parse stream = .ok diagnostics ↔
      ∃ rest, readStream? (trim stream.toList) = some (diagnostics, rest) := by
  rw [parse]
  split
  · exact absurd ‹_› h
  · split <;> simp_all

/-- What is not blank and has no list at its start is refused. -/
theorem parse_eq_error (stream : String) (h : trim stream.toList ≠ [])
    (hread : readStream? (trim stream.toList) = none) :
    parse stream = .error ⟨trim stream.toList⟩ := by
  rw [parse]
  split
  · exact absurd ‹_› h
  · rw [hread]

/-- A list of diagnostics that is cut off is refused. -/
theorem parse_cut_eq_error (inside cut : List Char) (diagnostics : List Diagnostic)
    (h : readStream? ('[' :: (inside ++ [']'])) = some (diagnostics, []))
    (hcut : cut <+: '[' :: (inside ++ [']'])) (hnil : cut ≠ []) (hne : cut ≠ '[' :: (inside ++ [']'])) :
    parse (String.ofList cut) = .error ⟨trim cut⟩ := by
  obtain ⟨c, t, rfl⟩ := List.exists_cons_of_ne_nil hnil
  obtain ⟨rfl, -⟩ := List.cons_prefix_cons.mp hcut
  have hopen : isBlank '[' = false := by decide
  have htrim : trim ('[' :: t) <+: '[' :: t := by
    have hstart := trim_prefix_trimStart ('[' :: t)
    rwa [trimStart_cons '[' t hopen] at hstart
  have hblank : isAllBlank ('[' :: t) = false := by simp [isAllBlank, hopen]
  have hshort : trim ('[' :: t) ≠ '[' :: (inside ++ [']']) := by
    intro heq
    rw [heq] at htrim
    exact hne (hcut.eq_of_length_le htrim.length_le)
  have hnone := isClosed_readStream?.eq_none_of_prefix readStream? _ _ diagnostics h
    (htrim.trans hcut) hshort
  have htext : (String.ofList ('[' :: t)).toList = '[' :: t := String.toList_ofList
  have herror := parse_eq_error (String.ofList ('[' :: t)) (by rw [htext]; exact trim_ne_nil _ hblank)
    (by rw [htext]; exact hnone)
  rwa [htext] at herror

/-- What is written behind a stream that is not blank has no effect on it. Its list stands between
brackets at the start of the trimmed text, gives the same diagnostics alone, and is refused with
what is left of it when it is cut off anywhere. -/
theorem parse_append_and_cut (s t : String) (diagnostics : List Diagnostic)
    (hs : isAllBlank s.toList = false) (h : parse s = .ok diagnostics) :
    parse (s ++ t) = .ok diagnostics ∧
      ∃ list rest, trim s.toList = list ++ rest ∧
        readStream? (trim s.toList) = some (diagnostics, rest) ∧
        list.head? = some '[' ∧ list.getLast? = some ']' ∧
        parse (String.ofList list) = .ok diagnostics ∧
        ∀ cut, cut <+: list → cut ≠ [] → cut ≠ list →
          parse (String.ofList cut) = .error ⟨trim cut⟩ := by
  obtain ⟨rest, hread⟩ := (parse_eq_ok_iff s diagnostics (trim_ne_nil _ hs)).mp h
  obtain ⟨inside, hlist⟩ := exists_brackets_of_readStream? _ _ _ hread
  have hwhole : readStream? ('[' :: (inside ++ [']'])) = some (diagnostics, []) := by
    obtain ⟨taken, -, htaken, hsame⟩ := isClosed_readStream? _ _ _ hread
    obtain rfl : '[' :: (inside ++ [']']) = taken := List.append_cancel_right (hlist.symm.trans htaken)
    simpa using hsame []
  constructor
  · obtain ⟨more, hmore⟩ := trim_prefix_trim_append s.toList t.toList hs
    have hboth := isClosed_readStream?.append readStream? _ _ more _ hread
    rw [hmore, ← String.toList_append] at hboth
    refine (parse_eq_ok_iff (s ++ t) diagnostics ?_).mpr ⟨_, hboth⟩
    rw [String.toList_append, ← hmore]
    exact List.append_ne_nil_of_left_ne_nil (trim_ne_nil _ hs) more
  · have htrim : trim ('[' :: (inside ++ [']'])) = '[' :: (inside ++ [']']) :=
      trim_eq_self '[' ']' inside (by decide) (by decide)
    refine ⟨'[' :: (inside ++ [']']), rest, hlist, hread, rfl, ?_, ?_, ?_⟩
    · rw [← List.cons_append]
      exact List.getLast?_concat
    · refine (parse_eq_ok_iff _ diagnostics ?_).mpr ⟨[], ?_⟩
      · rw [String.toList_ofList, htrim]
        exact List.cons_ne_nil _ _
      · rw [String.toList_ofList, htrim]
        exact hwhole
    · intro cut hcut hnil hne
      exact parse_cut_eq_error inside cut diagnostics hwhole hcut hnil hne

/-- A stream of one diagnostic with a line of plain text behind it. -/
def streamWithNote : String :=
  " [\x7b\"message\": \"m\", \"children\": []\x7d]\nnote"

/-- A bracket behind the note does not belong to the list. -/
theorem parse_streamWithNote_append :
    isAllBlank streamWithNote.toList = false ∧
      ∃ diagnostics, diagnostics.map Diagnostic.message = ["m"] ∧
        parse streamWithNote = .ok diagnostics ∧ parse (streamWithNote ++ "]") = .ok diagnostics := by
  have hblank : isAllBlank streamWithNote.toList = false := by decide
  have hmessages : (parse streamWithNote).toOption.map (List.map Diagnostic.message) = some ["m"] := by
    decide +kernel
  obtain ⟨diagnostics, hread, hmessages⟩ := Option.map_eq_some_iff.mp hmessages
  have hparse : parse streamWithNote = .ok diagnostics := by
    cases hresult : parse streamWithNote with
    | error e =>
      rw [hresult] at hread
      cases hread
    | ok other =>
      rw [hresult] at hread
      exact congrArg _ (Option.some.inj hread)
  exact ⟨hblank, diagnostics, hmessages, hparse,
    (parse_append_and_cut _ "]" diagnostics hblank hparse).1⟩

end Diagnostic

end UnityBuild
