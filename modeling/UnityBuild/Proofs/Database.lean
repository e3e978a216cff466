import UnityBuild.Proofs.Database.Entries
import UnityBuild.Proofs.Json.RoundTrip

/-!
# Compile databases as texts

A record whose paths are UTF-8 is printed as an object in which absent members are left out, and reading
an object puts what is absent back. Reading refuses records that name no file or no command, and drops
records of a source file that it has met before. So a list of records is read back from its text exactly
when nothing in it is refused or dropped.

Main statements: `parse_databaseText_eq_ok_iff` and `nodup_sourcePath_of_parse`.
-/

namespace UnityBuild

namespace Json

/-- The last field of a name in two lists of fields is that of the second, if it has one. -/
theorem lastField?_append (name : String) (fields others : List (String × Value)) :
    lastField? name (fields ++ others) = (lastField? name others).or (lastField? name fields) := by
  induction fields with
  | nil =>
    rw [List.nil_append, lastField?, Option.or_none]
  | cons field fields ih =>
    obtain ⟨key, value⟩ := field
    rw [List.cons_append, lastField?, lastField?, ih]
    cases lastField? name others with
    | some found => rfl
    | none => rfl

/-- A field that is written when it is there is found under its own name alone. -/
theorem lastField?_toList_map {α : Type} (name key : String) (value : α → Value) (a : Option α) :
    lastField? name (a.map fun a => (key, value a)).toList =
      if key = name then a.map value else none := by
  cases a with
  | none => simp [lastField?]
  | some a => simp [lastField?]

end Json

/-- A record that names a file and says how it is compiled: by a list of arguments that is not
empty, or by a command that is not blank. -/
structure CompileRecord.IsComplete (r : CompileRecord) : Prop where
  file : r.file ≠ .empty
  command : (∃ words, r.arguments = some words ∧ words ≠ []) ∨
    ∃ command, r.command = some command ∧ Text.isAllBlank command.toList = false

/-- The members of a record in a JSON object, with the texts that show its paths. -/
def CompileRecord.jsonFields (r : CompileRecord) : List (String × Json.Value) :=
  r.jsonFieldsWith r.directory.display r.file.display (r.output.map Path.display)

namespace Database

open Json (Value lastField?)

section Printing

variable (r : CompileRecord)

/-- A record is printed exactly when texts write its paths. -/
theorem jsonFields?_eq_some_iff (fields : List (String × Value)) :
    r.jsonFields? = some fields ↔ r.IsText ∧ fields = r.jsonFields := by
  have houtput (output : Option String) :
      r.output.mapM Path.text? = some output ↔ r.output = output.map Path.ofText := by
    cases r.output with
    | none => cases output <;> simp
    | some path => cases output <;> simp [Path.text?_eq_some_iff]
  simp only [CompileRecord.jsonFields?, bind, Option.bind_eq_some_iff, pure, Option.some.injEq,
    Path.text?_eq_some_iff, houtput, CompileRecord.jsonFields]
  constructor
  · rintro ⟨directory, hdirectory, file, hfile, output, hout, rfl⟩
    have hread : (output.map Path.ofText).map Path.display = output := by
      cases output <;> simp
    refine ⟨⟨⟨_, hdirectory⟩, ⟨_, hfile⟩, ?_⟩, ?_⟩
    · intro path hpath
      rw [hout] at hpath
      obtain ⟨text, -, rfl⟩ := Option.map_eq_some_iff.mp hpath
      exact ⟨text, rfl⟩
    · rw [hdirectory, hfile, hout, Path.display_ofText, Path.display_ofText, hread]
  · rintro ⟨htexts, rfl⟩
    have hread : r.output = (r.output.map Path.display).map Path.ofText := by
      cases hr : r.output with
      | none => rfl
      | some path =>
        rw [Option.map_some, Option.map_some, (Path.isText_iff path).mp (htexts.output path hr)]
    exact ⟨_, ((Path.isText_iff _).mp htexts.directory).symm, _,
      ((Path.isText_iff _).mp htexts.file).symm, _, hread, rfl⟩

end Printing

section Records

variable (r : CompileRecord)

/-- Each member of a record is found under its name when it is there. -/
theorem lastField?_jsonFields :
    lastField? "directory" r.jsonFields = some (.string r.directory.display) ∧
      lastField? "file" r.jsonFields = some (.string r.file.display) ∧
      lastField? "arguments" r.jsonFields =
        r.arguments.map (fun words => .array (words.map .string)) ∧
      lastField? "command" r.jsonFields = r.command.map .string ∧
      lastField? "output" r.jsonFields = r.output.map fun output => .string output.display := by
  have houtput : (r.output.map Path.display).map Value.string =
      r.output.map fun output => .string output.display := Option.map_map _ _ _
  refine ⟨?_, ?_, ?_, ?_, ?_⟩
  all_goals
    simp only [CompileRecord.jsonFields, CompileRecord.jsonFieldsWith, Json.lastField?_append,
      Json.lastField?_toList_map, lastField?, String.reduceEq, if_false, if_true, Option.none_or,
      Option.or_none, ← houtput]

/-- The members of a record that texts write are held by its fields. -/
theorem decodesFrom_jsonFields (h : r.IsText) : r.DecodesFrom r.jsonFields := by
  obtain ⟨hdirectory, hfile, harguments, hcommand, houtput⟩ := lastField?_jsonFields r
  refine ⟨hdirectory, hfile, ?_, ?_, ?_, h⟩
  · rw [harguments]
    exact Json.holdsOptional_map _ _
  · rw [hcommand]
    exact Json.holdsOptional_map _ _
  · rw [houtput]
    exact Json.holdsOptional_map _ _

/-- A record says how its file is compiled by a list of arguments that is not empty or by a command
that is not blank. -/
theorem hasCommand_iff :
    hasCommand r = true ↔ (∃ words, r.arguments = some words ∧ words ≠ []) ∨
      ∃ command, r.command = some command ∧ Text.isAllBlank command.toList = false := by
  rw [hasCommand, Bool.or_eq_true]
  apply or_congr
  · split
    · rename_i harguments
      simp [harguments]
    · rename_i hnone
      simp only [Bool.false_eq_true, false_iff, not_exists, not_and, ne_eq, not_not]
      intro words hwords
      cases words with
      | nil => rfl
      | cons first rest => exact absurd hwords (hnone first rest)
  · split
    · rename_i hcommand
      simp [hcommand]
    · rename_i hnone
      simp [hnone]

/-- An object that holds a record is read as the record exactly when the record is complete. -/
theorem readEntry_object_eq_ok_iff (fields : List (String × Value)) (h : r.DecodesFrom fields)
    (r' : CompileRecord) : readEntry (.object fields) = .ok r' ↔ r' = r ∧ r.IsComplete := by
  rw [readEntry_of_decodesFrom fields r h]
  constructor
  · intro hread
    split_ifs at hread with hfile hcommand
    exact ⟨(Except.ok.inj hread).symm, hfile, (hasCommand_iff r).mp hcommand⟩
  · rintro ⟨rfl, hcomplete⟩
    rw [if_neg hcomplete.file, if_pos ((hasCommand_iff r').mpr hcomplete.command)]

/-- The objects of records that texts write are read as the records exactly when all of them are
complete. -/
theorem readEntries_jsonFields_eq_ok_iff (index : Nat) (records read : List CompileRecord)
    (htexts : ∀ r ∈ records, r.IsText) :
    readEntries index (records.map fun r => .object r.jsonFields) = .ok read ↔
      read = records ∧ ∀ r ∈ records, r.IsComplete := by
  rw [readEntries_eq_ok_iff, List.forall₂_map_left_iff]
  induction records generalizing read with
  | nil => simp
  | cons r records ih =>
    obtain ⟨hr, hrecords⟩ := List.forall_mem_cons.mp htexts
    have hentry := readEntry_object_eq_ok_iff r _ (decodesFrom_jsonFields r hr)
    rw [List.forall₂_cons_left_iff, List.forall_mem_cons]
    constructor
    · rintro ⟨_, others, hread, hothers, rfl⟩
      obtain ⟨rfl, hcomplete⟩ := (hentry _).mp hread
      obtain ⟨rfl, hall⟩ := (ih others hrecords).mp hothers
      exact ⟨rfl, hcomplete, hall⟩
    · rintro ⟨rfl, hcomplete, hall⟩
      exact ⟨r, records, (hentry r).mpr ⟨rfl, hcomplete⟩, (ih records hrecords).mpr ⟨rfl, hall⟩, rfl⟩

end Records

section Duplicates

/-- The records that are kept have sources of their own, none of which was seen before. -/
theorem keepFirst_apart (seen : List Path) (records : List CompileRecord) :
    ((keepFirst seen records).map CompileRecord.sourcePath).Nodup ∧
      ∀ r ∈ keepFirst seen records, r.sourcePath ∉ seen := by
  induction records generalizing seen with
  | nil => simp [keepFirst]
  | cons r records ih =>
    rw [keepFirst]
    split
    · exact ih seen
    · rename_i hseen
      obtain ⟨hnodup, hapart⟩ := ih (r.sourcePath :: seen)
      have hnew : ∀ r' ∈ keepFirst (r.sourcePath :: seen) records,
          r'.sourcePath ≠ r.sourcePath ∧ r'.sourcePath ∉ seen := fun r' hr' =>
        not_or.mp (List.mem_cons.not.mp (hapart r' hr'))
      refine ⟨?_, ?_⟩
      · rw [List.map_cons, List.nodup_cons]
        refine ⟨fun hmem => ?_, hnodup⟩
        obtain ⟨r', hr', hsame⟩ := List.mem_map.mp hmem
        exact (hnew r' hr').1 hsame
      · intro r' hr'
        rcases List.mem_cons.mp hr' with rfl | hrest
        · simpa using hseen
        · exact (hnew r' hrest).2

/-- Records with sources of their own, none of which was seen before, are all kept. -/
theorem keepFirst_eq_self (seen : List Path) (records : List CompileRecord)
    (hnodup : (records.map CompileRecord.sourcePath).Nodup)
    (hapart : ∀ r ∈ records, r.sourcePath ∉ seen) : keepFirst seen records = records := by
  induction records generalizing seen with
  | nil => rfl
  | cons r records ih =>
    obtain ⟨hr, hrecords⟩ := List.nodup_cons.mp hnodup
    have hunseen : seen.contains r.sourcePath = false := by
      simpa using hapart r List.mem_cons_self
    rw [keepFirst, hunseen, if_neg Bool.false_ne_true]
    congr 1
    apply ih _ hrecords
    intro r' hr' hmem
    rcases List.mem_cons.mp hmem with hsame | hseen
    · exact hr (hsame ▸ List.mem_map_of_mem hr')
    · exact hapart r' (List.mem_cons_of_mem r hr') hseen

/-- All records are kept exactly when no two of them have the same source. -/
theorem keepFirst_nil_eq_self_iff (records : List CompileRecord) :
    keepFirst [] records = records ↔ (records.map CompileRecord.sourcePath).Nodup := by
  constructor
  · intro h
    rw [← h]
    exact (keepFirst_apart [] records).1
  · intro h
    exact keepFirst_eq_self [] records h fun r _ => List.not_mem_nil

end Duplicates

/-- The records of a database have sources of their own. -/
theorem nodup_sourcePath_of_parse (text : String) (records : List CompileRecord)
    (h : parse text = .ok records) : (records.map CompileRecord.sourcePath).Nodup := by
  unfold parse at h
  split at h
  · cases h
  · rename_i values _
    cases hread : readEntries 0 values with
    | error fault =>
      rw [hread] at h
      cases h
    | ok read =>
      rw [hread] at h
      cases h
      exact (keepFirst_apart [] read).1
  · cases h

/-- A record is printed within the depth that is read. -/
theorem textual_jsonFields (r : CompileRecord) (depth : Nat) :
    Value.Textual (depth + 2) (.object r.jsonFields) := by
  apply Value.Textual.object
  intro field hfield
  simp only [CompileRecord.jsonFields, CompileRecord.jsonFieldsWith, List.mem_append, List.mem_cons,
    List.not_mem_nil, or_false, Option.mem_toList, Option.map_eq_some_iff] at hfield
  obtain ((((rfl | rfl) | ⟨words, -, rfl⟩) | ⟨command, -, rfl⟩) | ⟨output, -, rfl⟩) := hfield
  · exact .string _ _
  · exact .string _ _
  · apply Value.Textual.array
    intro item hitem
    obtain ⟨word, -, rfl⟩ := List.mem_map.mp hitem
    exact .string _ _
  · exact .string _ _
  · exact .string _ _

section Texts

variable (records : List CompileRecord)

/-- A database is printed exactly when texts write the paths of its records. -/
theorem databaseText?_eq_some_iff (text : String) :
    databaseText? records = some text ↔
      (∀ r ∈ records, r.IsText) ∧
        text = (Value.array (records.map fun r => .object r.jsonFields)).pretty := by
  have hobjects (objects : List (List (String × Value))) :
      records.mapM CompileRecord.jsonFields? = some objects ↔
        (∀ r ∈ records, r.IsText) ∧ objects = records.map CompileRecord.jsonFields := by
    induction records generalizing objects with
    | nil => simp [eq_comm]
    | cons r records ih =>
      simp only [List.mapM_cons, bind, Option.bind_eq_some_iff, jsonFields?_eq_some_iff, ih, pure,
        Option.some.injEq, List.forall_mem_cons, List.map_cons]
      constructor
      · rintro ⟨_, ⟨hr, rfl⟩, _, ⟨hrecords, rfl⟩, rfl⟩
        exact ⟨⟨hr, hrecords⟩, rfl⟩
      · rintro ⟨⟨hr, hrecords⟩, rfl⟩
        exact ⟨_, ⟨hr, rfl⟩, _, ⟨hrecords, rfl⟩, rfl⟩
  simp only [databaseText?, bind, Option.bind_eq_some_iff, hobjects, pure, Option.some.injEq]
  constructor
  · rintro ⟨_, ⟨htexts, rfl⟩, rfl⟩
    exact ⟨htexts, by rw [List.map_map]; rfl⟩
  · rintro ⟨htexts, rfl⟩
    exact ⟨_, ⟨htexts, rfl⟩, by rw [List.map_map]; rfl⟩

/-- A database has a text exactly when texts write the paths of its records. -/
theorem exists_databaseText?_iff :
    (∃ text, databaseText? records = some text) ↔ ∀ r ∈ records, r.IsText := by
  simp only [databaseText?_eq_some_iff, exists_and_left, exists_eq, and_true]

variable (text : String) (h : databaseText? records = some text)

include h in
/-- The text of records is read as the list of their objects. -/
theorem readDocument?_databaseText? :
    Json.readDocument? text.toList = some (.array (records.map fun r => .object r.jsonFields)) := by
  obtain ⟨-, rfl⟩ := (databaseText?_eq_some_iff records text).mp h
  apply Json.readDocument?_pretty
  apply Value.Textual.array
  intro value hvalue
  obtain ⟨r, -, rfl⟩ := List.mem_map.mp hvalue
  exact textual_jsonFields r 124

include h in
/-- The text of records is read by reading their objects and dropping the repeated sources. -/
theorem parse_databaseText? :
    parse text = (readEntries 0 (records.map fun r => .object r.jsonFields)).map (keepFirst []) := by
  rw [parse, readDocument?_databaseText? records text h]

include h in
/-- Records are read back from their text exactly when all are complete and have sources of their
own. -/
theorem parse_eq_ok_self_iff :
    parse text = .ok records ↔
      (∀ r ∈ records, r.IsComplete) ∧ (records.map CompileRecord.sourcePath).Nodup := by
  have htexts := ((databaseText?_eq_some_iff records text).mp h).1
  rw [parse_databaseText? records text h]
  constructor
  · intro hparse
    cases hread : readEntries 0 (records.map fun r => .object r.jsonFields) with
    | error fault =>
      rw [hread] at hparse
      cases hparse
    | ok read =>
      obtain ⟨rfl, hcomplete⟩ := (readEntries_jsonFields_eq_ok_iff 0 records read htexts).mp hread
      rw [hread] at hparse
      exact ⟨hcomplete, (keepFirst_nil_eq_self_iff read).mp (Except.ok.inj hparse)⟩
  · rintro ⟨hcomplete, hnodup⟩
    rw [(readEntries_jsonFields_eq_ok_iff 0 records records htexts).mpr ⟨rfl, hcomplete⟩]
    exact congrArg Except.ok ((keepFirst_nil_eq_self_iff records).mpr hnodup)

end Texts

/-- Records have a text exactly when texts write all of their paths, and are read back from it, member
by member and in order, exactly when every record is complete and no two of them have the same
source. -/
theorem parse_databaseText_eq_ok_iff (records : List CompileRecord) :
    ((∃ text, databaseText? records = some text) ↔ ∀ r ∈ records, r.IsText) ∧
      ∀ text, databaseText? records = some text →
        (parse text = .ok records ↔
          (∀ r ∈ records, r.IsComplete) ∧ (records.map CompileRecord.sourcePath).Nodup) :=
  ⟨exists_databaseText?_iff records, parse_eq_ok_self_iff records⟩

/-- Records with letters and quotes that JSON has its own way to write. -/
def quotedRecords : List CompileRecord :=
  [⟨.ofText "/é", .ofText "./a\"b.c", some ["cc", "-DX=\"\\1\""], none, none⟩,
    ⟨.ofText "/p", .ofText "b.c", none, some "cc\t-c b.c", some (.ofText "é.o")⟩]

/-- Records with letters and quotes have a text and are read back from it. -/
theorem parse_databaseText_quotedRecords :
    ∃ text, databaseText? quotedRecords = some text ∧ parse text = .ok quotedRecords := by
  obtain ⟨hprinted, hread⟩ := parse_databaseText_eq_ok_iff quotedRecords
  have htexts : ∀ r ∈ quotedRecords, r.IsText := by
    simp only [quotedRecords, List.forall_mem_cons, List.not_mem_nil, false_implies, implies_true, and_true]
    exact ⟨⟨⟨_, rfl⟩, ⟨_, rfl⟩, by simp⟩, ⟨_, rfl⟩, ⟨_, rfl⟩, by simp [Path.IsText]⟩
  have hcomplete : ∀ r ∈ quotedRecords, r.IsComplete := by
    simp only [quotedRecords, List.forall_mem_cons, List.not_mem_nil, false_implies, implies_true, and_true]
    exact ⟨⟨by decide +kernel, .inl ⟨_, rfl, List.cons_ne_nil _ _⟩⟩, by decide +kernel,
      .inr ⟨_, rfl, by decide +kernel⟩⟩
  obtain ⟨text, htext⟩ := hprinted.mpr htexts
  exact ⟨text, htext, (hread text htext).mpr ⟨hcomplete, by decide +kernel⟩⟩

end Database

end UnityBuild
