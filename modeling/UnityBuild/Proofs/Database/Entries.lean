import UnityBuild.Database
import UnityBuild.Proofs.Lists
import UnityBuild.Proofs.Path.Texts
import UnityBuild.Proofs.Results

/-!
# The entries of a compile database

An object is a record when each field that counts has the type of its member: the directory and the
file must be there, and the other members may be absent or null. Entries are read one by one, so a
list of them is read when every entry is, and else is refused for its first entry that is not.

Main statements: `decodeRecord_eq_ok_iff`, `readEntries_eq_ok_iff` and `readEntries_eq_error_iff`.
-/

namespace UnityBuild

open Json (Value lastField?)

/-- What a field holds whose value is written in a given way and may be absent or null. -/
def Json.HoldsOptional {α : Type} (write : α → Value) (field : Option Value) : Option α → Prop
  | none => field = none ∨ field = some .null
  | some a => field = some (write a)

/-- A member that is written when it is there is held by its field. -/
theorem Json.holdsOptional_map {α : Type} (write : α → Value) (a : Option α) :
    HoldsOptional write (a.map write) a := by
  cases a with
  | none => exact .inl rfl
  | some a => rfl

/-- A record all of whose paths are written by texts. -/
structure CompileRecord.IsText (r : CompileRecord) : Prop where
  directory : r.directory.IsText
  file : r.file.IsText
  output : ∀ path ∈ r.output, path.IsText

/-- The source of a record that texts write is written by one. -/
theorem CompileRecord.IsText.sourcePath {r : CompileRecord} (h : r.IsText) : r.sourcePath.IsText :=
  h.file.resolve h.directory

/-- A record whose members are what the fields of an object hold. -/
structure CompileRecord.DecodesFrom (fields : List (String × Value)) (r : CompileRecord) : Prop where
  directory : lastField? "directory" fields = some (.string r.directory.display)
  file : lastField? "file" fields = some (.string r.file.display)
  arguments : Json.HoldsOptional (fun words => .array (words.map .string))
    (lastField? "arguments" fields) r.arguments
  command : Json.HoldsOptional .string (lastField? "command" fields) r.command
  output : Json.HoldsOptional (fun path => .string path.display) (lastField? "output" fields) r.output
  texts : r.IsText

namespace Database

section Fields

variable {α : Type} (decode : Value → Except DecodeFault α) (write : α → Value)

/-- A text is decoded from the value that holds it. -/
theorem decodeText_eq_ok_iff (expected : String) (value : Value) (text : String) :
    decodeText expected value = .ok text ↔ value = .string text := by
  cases value <;> simp [decodeText]

/-- A list of texts is decoded from the list of their values. -/
theorem decodeTexts_eq_ok_iff (value : Value) (words : List String) :
    decodeTexts value = .ok words ↔ value = .array (words.map .string) := by
  cases value with
  | array items =>
    simp only [decodeTexts, Lists.mapM_eq_ok_iff, decodeText_eq_ok_iff, Value.array.injEq]
    rw [← List.forall₂_eq_eq_eq, List.forall₂_map_right_iff]
  | _ => simp [decodeTexts]

/-- A field that may be absent or null is decoded from what it holds. -/
theorem optionalField_eq_ok_iff (hnull : ∀ a, write a ≠ .null)
    (hdecode : ∀ value a, decode value = .ok a ↔ value = write a) (fields : List (String × Value))
    (name : String) (a : Option α) :
    optionalField decode fields name = .ok a ↔ Json.HoldsOptional write (lastField? name fields) a := by
  unfold optionalField
  split
  · rename_i hfield
    cases a <;> simp [hfield, Json.HoldsOptional]
  · rename_i hfield
    cases a with
    | none => simp [hfield, Json.HoldsOptional]
    | some a => simp [hfield, Json.HoldsOptional, (hnull a).symm]
  · rename_i value hne hfield
    rw [Results.map_eq_ok_iff]
    cases a with
    | none => simpa [hfield, Json.HoldsOptional] using hne
    | some a => simp [hfield, Json.HoldsOptional, hdecode]

/-- A field that must be there is decoded from what it holds. -/
theorem require_presentField_eq_ok_iff (hdecode : ∀ value a, decode value = .ok a ↔ value = write a)
    (fields : List (String × Value)) (name : String) (a : α) :
    (∃ found, presentField decode fields name = .ok found ∧ require name found = .ok a) ↔
      lastField? name fields = some (write a) := by
  unfold presentField
  split
  · rename_i hfield
    simp [hfield, require]
  · rename_i value hfield
    simp [hfield, Results.map_eq_ok_iff, hdecode, require]

end Fields

/-- An object is decoded as the record that its fields hold. -/
theorem decodeRecord_eq_ok_iff (fields : List (String × Value)) (r : CompileRecord) :
    decodeRecord fields = .ok r ↔ r.DecodesFrom fields := by
  have htext := decodeText_eq_ok_iff
  have harguments := optionalField_eq_ok_iff decodeTexts _ (fun _ h => by cases h)
    decodeTexts_eq_ok_iff fields "arguments"
  have hcommand := optionalField_eq_ok_iff _ Value.string (fun _ h => by cases h)
    (htext "a string") fields "command"
  have houtput := optionalField_eq_ok_iff _ Value.string (fun _ h => by cases h)
    (htext "path string") fields "output"
  have hpresent := fun name => require_presentField_eq_ok_iff _ Value.string (htext "path string") fields name
  simp only [decodeRecord, Results.bind_eq_ok_iff, pure, Except.pure, Except.ok.injEq]
  constructor
  · rintro ⟨arguments, hargs, command, hcom, foundDirectory, hfoundDirectory, foundFile, hfoundFile,
      output, hout, directory, hdirectory, file, hfile, rfl⟩
    have hheld := (houtput _).mp hout
    refine ⟨?_, ?_, (harguments _).mp hargs, (hcommand _).mp hcom, ?_, ⟨_, rfl⟩, ⟨_, rfl⟩, ?_⟩
    · rw [Path.display_ofText]
      exact (hpresent _ _).mp ⟨_, hfoundDirectory, hdirectory⟩
    · rw [Path.display_ofText]
      exact (hpresent _ _).mp ⟨_, hfoundFile, hfile⟩
    · cases output with
      | none => exact hheld
      | some text =>
        rw [Option.map_some, Json.HoldsOptional, Path.display_ofText]
        exact hheld
    · intro path hpath
      obtain ⟨text, -, rfl⟩ := Option.map_eq_some_iff.mp hpath
      exact ⟨text, rfl⟩
  · intro h
    obtain ⟨foundDirectory, hfoundDirectory, hdirectory⟩ := (hpresent _ _).mpr h.directory
    obtain ⟨foundFile, hfoundFile, hfile⟩ := (hpresent _ _).mpr h.file
    have hheld : Json.HoldsOptional Value.string (lastField? "output" fields)
        (r.output.map Path.display) := by
      have houtput := h.output
      cases hr : r.output with
      | none => rwa [hr] at houtput
      | some path => rwa [hr] at houtput
    have hread : (r.output.map Path.display).map Path.ofText = r.output := by
      cases hr : r.output with
      | none => rfl
      | some path =>
        rw [Option.map_some, Option.map_some, (Path.isText_iff path).mp (h.texts.output path hr)]
    refine ⟨r.arguments, (harguments _).mpr h.arguments, r.command, (hcommand _).mpr h.command,
      foundDirectory, hfoundDirectory, foundFile, hfoundFile, _, (houtput _).mpr hheld,
      r.directory.display, hdirectory, r.file.display, hfile, ?_⟩
    rw [hread, (Path.isText_iff _).mp h.texts.directory, (Path.isText_iff _).mp h.texts.file]

/-- The object of a record is checked for its file and then for its command. -/
theorem readEntry_of_decodesFrom (fields : List (String × Value)) (r : CompileRecord)
    (h : r.DecodesFrom fields) :
    readEntry (.object fields) =
      if r.file = .empty then .error .emptyFile
      else if hasCommand r = true then .ok r else .error (.noCommand r.file) := by
  rw [readEntry, (decodeRecord_eq_ok_iff fields r).mpr h]
  by_cases hfile : r.file = .empty
  · simp only [Except.mapError, bind, Except.bind, hfile, if_true]
    rfl
  · cases hsays : hasCommand r with
    | false =>
      simp only [Except.mapError, bind, Except.bind, hfile, if_false, hsays]
      rfl
    | true =>
      simp only [Except.mapError, bind, Except.bind, hfile, if_false, hsays]
      rfl

section Sequences

variable (index : Nat) (values : List Value)

/-- Entries are read when each of them is. -/
theorem readEntries_eq_ok_iff (records : List CompileRecord) :
    readEntries index values = .ok records ↔
      List.Forall₂ (fun value r => readEntry value = .ok r) values records := by
  induction values generalizing index records with
  | nil => cases records <;> simp [readEntries]
  | cons value values ih =>
    simp only [readEntries, Results.bind_eq_ok_iff, Results.mapError_eq_ok_iff, pure, Except.pure,
      Except.ok.injEq, ih]
    constructor
    · rintro ⟨r, hr, records, hrecords, rfl⟩
      exact .cons hr hrecords
    · rintro (_ | ⟨hr, hrecords⟩)
      exact ⟨_, hr, _, hrecords, rfl⟩

/-- Entries are refused for the first of them that is. -/
theorem readEntries_eq_error_iff (e : Error) :
    readEntries index values = .error e ↔
      ∃ front value behind fault, values = front ++ value :: behind ∧
        (∀ v ∈ front, ∃ r, readEntry v = .ok r) ∧ readEntry value = .error fault ∧
        e = .entry (index + front.length) fault := by
  induction values generalizing index with
  | nil => simp [readEntries]
  | cons value values ih =>
    simp only [readEntries, Results.bind_eq_error_iff, Results.mapError_eq_error_iff,
      Results.mapError_eq_ok_iff, pure, Except.pure, reduceCtorEq, and_false, exists_const, or_false,
      ih]
    constructor
    · rintro (⟨fault, hfault, rfl⟩ | ⟨r, hr, front, v, behind, fault, rfl, hfront, hv, rfl⟩)
      · exact ⟨[], value, values, fault, rfl, fun _ h => absurd h List.not_mem_nil, hfault, rfl⟩
      · refine ⟨value :: front, v, behind, fault, rfl, List.forall_mem_cons.mpr ⟨⟨r, hr⟩, hfront⟩, hv, ?_⟩
        rw [List.length_cons, Nat.add_right_comm, Nat.add_assoc]
    · rintro ⟨front, v, behind, fault, hvalues, hfront, hv, rfl⟩
      cases front with
      | nil =>
        obtain ⟨rfl, rfl⟩ := List.cons.inj hvalues
        exact .inl ⟨fault, hv, rfl⟩
      | cons first front =>
        obtain ⟨rfl, rfl⟩ := List.cons.inj hvalues
        obtain ⟨⟨r, hr⟩, hfront⟩ := List.forall_mem_cons.mp hfront
        refine .inr ⟨r, hr, front, v, behind, fault, rfl, hfront, hv, ?_⟩
        rw [List.length_cons, Nat.add_right_comm, Nat.add_assoc]

end Sequences

end Database

end UnityBuild
