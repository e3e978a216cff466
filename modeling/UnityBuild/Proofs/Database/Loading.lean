import UnityBuild.Proofs.Database
import UnityBuild.Proofs.Text.Words

/-!
# Loading a compile database

Each entry of a database is checked before it is known whether its source was met before. So a
database is loaded exactly when all of its entries are records that say how their files are
compiled, and else the first entry that is wrong is reported, even if it repeats a source. Of the
entries that are loaded the first one of each source is kept.

Main statement: `parse_array`.
-/

namespace UnityBuild

/-- A record has a command when it has arguments or a command string that is not blank. -/
theorem CompileRecord.tokens_ne_nil_iff (r : CompileRecord) :
    r.tokens ≠ [] ↔ Database.hasCommand r = true := by
  have hcommand : (r.command.map commandWords).getD [] = [] ↔
      ∀ command, r.command = some command → Text.isAllBlank command.toList = true := by
    cases hr : r.command with
    | none => simp
    | some command => simp [commandWords, Text.words_eq_nil_iff]
  rw [Database.hasCommand_iff, tokens]
  split
  · rename_i first rest harguments
    simp [harguments]
  · rename_i hempty
    have hnone : ¬ ∃ words, r.arguments = some words ∧ words ≠ [] := by
      rintro ⟨words, hwords, hne⟩
      obtain ⟨first, rest, rfl⟩ := List.exists_cons_of_ne_nil hne
      exact hempty first rest hwords
    simp [hcommand, hnone]

namespace Database

open Json (Value)

section Entries

/-- The object of a record that names its file and says how it is compiled. -/
def IsEntry (value : Value) (r : CompileRecord) : Prop :=
  ∃ fields, value = .object fields ∧ r.DecodesFrom fields ∧ r.IsComplete

/-- Why a value is no entry: it is no object, a field has the wrong type or is missing, the file is
empty, or nothing says how the file is compiled. What is looked for first is reported. -/
inductive Refused : Value → EntryFault → Prop where
  | notObject (value : Value) (h : ∀ fields, value ≠ .object fields) : Refused value .notObject
  | undecodable (fields : List (String × Value)) (fault : DecodeFault)
    (h : decodeRecord fields = .error fault) : Refused (.object fields) (.undecodable fault)
  | emptyFile (fields : List (String × Value)) (r : CompileRecord) (h : r.DecodesFrom fields)
    (hfile : r.file = .empty) : Refused (.object fields) .emptyFile
  | noCommand (fields : List (String × Value)) (r : CompileRecord) (h : r.DecodesFrom fields)
    (hfile : r.file ≠ .empty) (hcommand : r.tokens = []) :
    Refused (.object fields) (.noCommand r.file)

/-- What an entry is read as. -/
theorem readEntry_eq_ok_iff (value : Value) (r : CompileRecord) :
    readEntry value = .ok r ↔ IsEntry value r := by
  constructor
  · intro h
    cases value with
    | object fields =>
      cases hdecode : decodeRecord fields with
      | error fault =>
        rw [readEntry, hdecode] at h
        cases h
      | ok r' =>
        have hfields := (decodeRecord_eq_ok_iff fields r').mp hdecode
        obtain ⟨rfl, hcomplete⟩ := (readEntry_object_eq_ok_iff r' fields hfields r).mp h
        exact ⟨fields, rfl, hfields, hcomplete⟩
    | _ => cases h
  · rintro ⟨fields, rfl, hfields, hcomplete⟩
    exact (readEntry_object_eq_ok_iff r fields hfields r).mpr ⟨rfl, hcomplete⟩

/-- What a value is refused for. -/
theorem readEntry_eq_error_iff (value : Value) (fault : EntryFault) :
    readEntry value = .error fault ↔ Refused value fault := by
  constructor
  · intro h
    cases value with
    | object fields =>
      cases hdecode : decodeRecord fields with
      | error decodeFault =>
        rw [readEntry, hdecode] at h
        cases h
        exact .undecodable fields decodeFault hdecode
      | ok r =>
        have hfields := (decodeRecord_eq_ok_iff fields r).mp hdecode
        rw [readEntry_of_decodesFrom fields r hfields] at h
        split_ifs at h with hfile hcommand
        · cases h
          exact .emptyFile fields r hfields hfile
        · cases h
          rw [← r.tokens_ne_nil_iff, ne_eq, not_not] at hcommand
          exact .noCommand fields r hfields hfile hcommand
    | _ =>
      cases h
      exact .notObject _ fun _ h => by cases h
  · intro h
    cases h with
    | notObject _ hvalue =>
      cases value with
      | object fields => exact absurd rfl (hvalue fields)
      | _ => rfl
    | undecodable fields fault hdecode =>
      rw [readEntry, hdecode]
      rfl
    | emptyFile fields r hfields hfile => rw [readEntry_of_decodesFrom fields r hfields, if_pos hfile]
    | noCommand fields r hfields hfile hcommand =>
      have hnone : ¬ hasCommand r = true := fun h => r.tokens_ne_nil_iff.mpr h hcommand
      rw [readEntry_of_decodesFrom fields r hfields, if_neg hfile, if_neg hnone]

end Entries

section FirstEntries

/-- Whether none of the records before a place has the source of a record. -/
def isFirstOfSource (records : List CompileRecord) (entry : CompileRecord × Nat) : Bool :=
  (records.take entry.2).all fun earlier => earlier.sourcePath != entry.1.sourcePath

/-- The records of which none before has the same source. -/
def firstOfEachSource (records : List CompileRecord) : List CompileRecord :=
  (records.zipIdx.filter (isFirstOfSource records)).map Prod.fst

/-- Records that are kept behind others are those of which none before has the same source. -/
theorem keepFirst_eq_map_filter (seen : List Path) (front records : List CompileRecord)
    (hseen : ∀ path, path ∈ seen ↔ path ∈ front.map CompileRecord.sourcePath) :
    keepFirst seen records =
      ((records.zipIdx front.length).filter (isFirstOfSource (front ++ records))).map Prod.fst := by
  induction records generalizing seen front with
  | nil => rfl
  | cons r records ih =>
    have hfirst : isFirstOfSource (front ++ r :: records) (r, front.length) =
        !seen.contains r.sourcePath := by
      have hmem : r.sourcePath ∈ seen ↔ ∃ earlier ∈ front, earlier.sourcePath = r.sourcePath := by
        rw [hseen, List.mem_map]
      rw [isFirstOfSource, List.take_left, Bool.eq_iff_iff]
      simp [hmem]
    rw [keepFirst, List.zipIdx_cons, List.filter_cons, hfirst]
    cases hr : seen.contains r.sourcePath with
    | true =>
      have hknown : ∀ path, path ∈ seen ↔ path ∈ (front ++ [r]).map CompileRecord.sourcePath := by
        intro path
        have hmem : path = r.sourcePath → path ∈ seen := fun h => h ▸ by simpa using hr
        simpa [hseen path] using hmem
      have hrest := ih seen (front ++ [r]) hknown
      simpa using hrest
    | false =>
      have hknown : ∀ path, path ∈ r.sourcePath :: seen ↔
          path ∈ (front ++ [r]).map CompileRecord.sourcePath := by
        intro path
        rw [List.mem_cons, hseen path, List.map_append, List.mem_append, or_comm]
        simp
      have hrest := ih (r.sourcePath :: seen) (front ++ [r]) hknown
      simpa using hrest

/-- The first record of each source is kept. -/
theorem keepFirst_nil_eq (records : List CompileRecord) :
    keepFirst [] records = firstOfEachSource records :=
  keepFirst_eq_map_filter [] [] records fun _ => Iff.rfl

/-- The records that are kept stand in the order of all records. -/
theorem firstOfEachSource_sublist (records : List CompileRecord) :
    (firstOfEachSource records).Sublist records := by
  have h := (List.filter_sublist (l := records.zipIdx) (p := isFirstOfSource records)).map Prod.fst
  rwa [List.zipIdx_map_fst] at h

/-- A source that was not seen before has a record that is kept. -/
theorem exists_mem_keepFirst (seen : List Path) (records : List CompileRecord) (r : CompileRecord)
    (hr : r ∈ records) (hseen : r.sourcePath ∉ seen) :
    ∃ kept ∈ keepFirst seen records, kept.sourcePath = r.sourcePath := by
  induction records generalizing seen with
  | nil => cases hr
  | cons first records ih =>
    rw [keepFirst]
    split
    · rename_i hfirst
      rcases List.mem_cons.mp hr with rfl | hr
      · exact absurd (List.contains_iff_mem.mp hfirst) hseen
      · exact ih seen hr hseen
    · by_cases hsame : first.sourcePath = r.sourcePath
      · exact ⟨first, List.mem_cons_self, hsame⟩
      · have hr' : r ∈ records := (List.mem_cons.mp hr).resolve_left fun h => hsame (h ▸ rfl)
        have hunseen : r.sourcePath ∉ first.sourcePath :: seen := by
          rw [List.mem_cons, not_or]
          exact ⟨fun h => hsame h.symm, hseen⟩
        obtain ⟨kept, hkept, hpath⟩ := ih _ hr' hunseen
        exact ⟨kept, List.mem_cons_of_mem _ hkept, hpath⟩

end FirstEntries

section Documents

variable (text : String) (values : List Value)
variable (h : Json.readDocument? text.toList = some (.array values))

include h in
/-- A list is loaded when all of its values are entries, and the first entry of each source is
kept. -/
theorem parse_array_eq_ok_iff (kept : List CompileRecord) :
    parse text = .ok kept ↔
      ∃ records, List.Forall₂ IsEntry values records ∧ kept = firstOfEachSource records := by
  simp only [parse, h, Results.map_eq_ok_iff, readEntries_eq_ok_iff, readEntry_eq_ok_iff,
    keepFirst_nil_eq, eq_comm (a := kept)]

include h in
/-- A list is refused for its first value that is no entry. -/
theorem parse_array_eq_error_iff (e : Error) :
    parse text = .error e ↔
      ∃ front value behind fault, values = front ++ value :: behind ∧
        (∀ v ∈ front, ∃ r, IsEntry v r) ∧ Refused value fault ∧ e = .entry front.length fault := by
  simp only [parse, h, Results.map_eq_error_iff, readEntries_eq_error_iff, readEntry_eq_ok_iff,
    readEntry_eq_error_iff, Nat.zero_add]

/-- No value is both an entry and refused. -/
theorem Refused.not_isEntry (value : Value) (fault : EntryFault) (hrefused : Refused value fault)
    (r : CompileRecord) : ¬ IsEntry value r := by
  intro hentry
  have hread := (readEntry_eq_ok_iff value r).mpr hentry
  rw [(readEntry_eq_error_iff value fault).mpr hrefused] at hread
  cases hread

include h in
/-- A list is loaded exactly when all of its values are entries. The first entry of each source is
kept, and each entry that is kept has a command. A list that is not loaded is refused for its first
value that is no entry, whether or not a source stood before. -/
theorem parse_array :
    ((∃ kept, parse text = .ok kept) ↔ ∀ value ∈ values, ∃ r, IsEntry value r) ∧
      (∀ kept, parse text = .ok kept →
        ∃ records, List.Forall₂ IsEntry values records ∧ kept = firstOfEachSource records ∧
          kept.Sublist records ∧ (kept.map CompileRecord.sourcePath).Nodup ∧
          (∀ r ∈ records, ∃ r' ∈ kept, r'.sourcePath = r.sourcePath) ∧ ∀ r ∈ kept, r.tokens ≠ []) ∧
      ∀ e, parse text = .error e ↔
        ∃ front value behind fault, values = front ++ value :: behind ∧
          (∀ v ∈ front, ∃ r, IsEntry v r) ∧ Refused value fault ∧ e = .entry front.length fault := by
  refine ⟨⟨?_, ?_⟩, ?_, parse_array_eq_error_iff text values h⟩
  · rintro ⟨kept, hkept⟩ value hvalue
    obtain ⟨records, hrecords, -⟩ := (parse_array_eq_ok_iff text values h kept).mp hkept
    obtain ⟨r, -, hr⟩ := Lists.exists_of_mem_left values records hrecords value hvalue
    exact ⟨r, hr⟩
  · intro hall
    cases hparse : parse text with
    | ok kept => exact ⟨kept, rfl⟩
    | error e =>
      obtain ⟨front, value, behind, fault, rfl, -, hrefused, -⟩ :=
        (parse_array_eq_error_iff text values h e).mp hparse
      obtain ⟨r, hr⟩ := hall value (by simp)
      exact absurd hr (hrefused.not_isEntry value fault r)
  · intro kept hkept
    obtain ⟨records, hrecords, rfl⟩ := (parse_array_eq_ok_iff text values h kept).mp hkept
    have hkeep := keepFirst_nil_eq records
    refine ⟨records, hrecords, rfl, firstOfEachSource_sublist records, ?_, ?_, ?_⟩
    · rw [← hkeep]
      exact (keepFirst_apart [] records).1
    · intro r hr
      rw [← hkeep]
      exact exists_mem_keepFirst [] records r hr List.not_mem_nil
    · intro r hr
      have hmem := (firstOfEachSource_sublist records).subset hr
      obtain ⟨_, -, -, -, -, hcomplete⟩ := Lists.exists_of_mem_right values records hrecords r hmem
      rw [r.tokens_ne_nil_iff, hasCommand_iff]
      exact hcomplete.command

end Documents

/-- Texts write the records of a database. -/
theorem isText_of_parse (text : String) (records : List CompileRecord)
    (h : parse text = .ok records) : ∀ r ∈ records, r.IsText := by
  cases hread : Json.readDocument? text.toList with
  | none =>
    rw [parse, hread] at h
    cases h
  | some value =>
    cases value with
    | array values =>
      obtain ⟨entries, hentries, rfl⟩ := (parse_array_eq_ok_iff text values hread records).mp h
      intro r hr
      obtain ⟨_, -, _, -, hfields, -⟩ := Lists.exists_of_mem_right values entries hentries r
        ((firstOfEachSource_sublist entries).subset hr)
      exact hfields.texts
    | _ =>
      rw [parse, hread] at h
      cases h

/-- An entry without a command is reported even when its source stood before. -/
theorem parse_array_repeated_source :
    let first : CompileRecord := ⟨⟨"/p"⟩, ⟨"a.c"⟩, some ["cc"], none, none⟩
    let second : CompileRecord := ⟨⟨"/p"⟩, ⟨"./a.c"⟩, none, some " ", none⟩
    second.sourcePath = first.sourcePath ∧
      ∃ text, databaseText? [first, second] = some text ∧
        Json.readDocument? text.toList =
          some (.array [.object first.jsonFields, .object second.jsonFields]) ∧
        parse text = .error (.entry 1 (.noCommand ⟨"./a.c"⟩)) := by
  intro first second
  have htexts : first.IsText ∧ second.IsText :=
    ⟨⟨⟨"/p", by decide⟩, ⟨"a.c", by decide⟩, by simp [first]⟩,
      ⟨"/p", by decide⟩, ⟨"./a.c", by decide⟩, by simp [second]⟩
  obtain ⟨text, htext⟩ := (exists_databaseText?_iff [first, second]).mpr (by simpa using htexts)
  have hread := readDocument?_databaseText? [first, second] text htext
  have hfirst : ∃ r, IsEntry (.object first.jsonFields) r :=
    ⟨first, _, rfl, decodesFrom_jsonFields first htexts.1, by decide,
      .inl ⟨_, rfl, List.cons_ne_nil _ _⟩⟩
  have hsecond : Refused (.object second.jsonFields) (.noCommand ⟨"./a.c"⟩) :=
    .noCommand _ second (decodesFrom_jsonFields second htexts.2) (by decide) (by decide)
  have hrefused := (parse_array _ _ hread).2.2 (.entry 1 (.noCommand ⟨"./a.c"⟩))
  refine ⟨by decide +kernel, text, htext, hread,
    hrefused.mpr ⟨[.object first.jsonFields], _, [], _, rfl, ?_, hsecond, rfl⟩⟩
  exact List.forall_mem_singleton.mpr hfirst

end Database

end UnityBuild
