import Mathlib.Data.List.Nodup
import UnityBuild.Artifact
import UnityBuild.Proofs.Path.Texts

/-!
# The files of one name

All files of a run lie directly in their directory: a name for them has no separator and starts with
no dot, so with an ending or without one it is the name of a file. The endings keep the source, the
object and the preprocessed text apart from each other and from all other files. The executable has no
ending, so it is apart from the database and the skip list only when it is called differently, see
`executable_takes_place_of_database`.

Main statement: `files_apart_iff`.
-/

namespace UnityBuild.Artifacts

/-- All files of a name in its directory. -/
def files (a : Artifacts) : List Path :=
  [a.source, a.object, a.preprocessed, a.executable, a.database, a.skipList]

/-- The endings of the source, the object and the preprocessed text. -/
def endings : List String := [".c", ".o", ".ii"]

/-- The names of the files without an ending of ours. -/
def bareNames (name : String) : List String := [name, databaseName, skipListName]

/-- The names of all files. -/
def fileNames (name : String) : List String :=
  endings.map (name ++ ·) ++ bareNames name

/-- The files are those of the directory with these names. -/
theorem files_eq (a : Artifacts) : a.files = (fileNames a.name).map a.file := rfl

section Names

variable (name : String)

/-- A name for files is the name of a file, with or without an ending that has no separator. -/
theorem isFileName_append (ending : String) (hname : isArtifactName name = true)
    (hending : '/' ∉ ending.toList) : Path.IsFileName (name ++ ending) := by
  unfold isArtifactName at hname
  unfold Path.IsFileName
  rw [String.toList_append]
  cases hchars : name.toList with
  | nil => simp [hchars] at hname
  | cons first rest =>
    rw [hchars] at hname
    obtain ⟨hfirst, hall⟩ := Bool.and_eq_true_iff.mp hname
    have hdot : first ≠ '.' := bne_iff_ne.mp hfirst
    have hslash : '/' ∉ first :: rest := by
      intro hmem
      exact absurd (List.all_eq_true.mp hall '/' hmem) (by decide)
    refine ⟨List.cons_ne_nil _ _, ?_, ?_, ?_⟩
    · exact mt List.mem_append.mp (not_or.mpr ⟨hslash, hending⟩)
    · exact fun h => hdot (List.cons.inj h).1
    · exact fun h => hdot (List.cons.inj h).1

/-- All files are called by names of files. -/
theorem isFileName_of_mem_fileNames (hname : isArtifactName name = true) :
    ∀ file ∈ fileNames name, Path.IsFileName file := by
  have hendings : ∀ ending ∈ endings, '/' ∉ ending.toList := by decide
  have hfixed : Path.IsFileName databaseName ∧ Path.IsFileName skipListName := by
    unfold Path.IsFileName
    decide
  intro file hfile
  rcases List.mem_append.mp hfile with hcalled | hbare
  · obtain ⟨ending, hending, rfl⟩ := List.mem_map.mp hcalled
    exact isFileName_append name ending hname (hendings ending hending)
  · have hself := isFileName_append name "" hname List.not_mem_nil
    rw [String.append_empty] at hself
    have hall : ∀ file ∈ bareNames name, Path.IsFileName file := by
      simp [bareNames, hself, hfixed]
    exact hall file hbare

/-- A name with an ending is none of the names without one. -/
theorem append_notMem_bareNames : ∀ ending ∈ endings, name ++ ending ∉ bareNames name := by
  have hendings : ∀ ending ∈ endings, ending ≠ "" := by decide
  -- The fixed names have other last characters than the endings.
  have hlast : ∀ ending ∈ endings, ∀ fixed ∈ [databaseName, skipListName],
      ending.toList.getLast? ≠ fixed.toList.getLast? := by decide
  intro ending hending hbare
  have hne := hendings ending hending
  rcases List.mem_cons.mp hbare with hself | hfixed
  · exact hne (String.append_eq_left_iff.mp hself)
  · apply hlast ending hending _ hfixed
    have hchars : ending.toList ≠ [] := mt String.toList_eq_nil_iff.mp hne
    rw [String.toList_append, List.getLast?_append_of_ne_nil _ hchars]

/-- All names are different exactly when the bare name is none of the fixed ones. -/
theorem nodup_fileNames_iff :
    (fileNames name).Nodup ↔ name ≠ databaseName ∧ name ≠ skipListName := by
  have hcalled : (endings.map (name ++ ·)).Nodup :=
    List.Nodup.map (fun _ _ h => (String.append_right_inj name).mp h) (by decide)
  have hapart : ∀ called ∈ endings.map (name ++ ·), ∀ bare ∈ bareNames name, called ≠ bare := by
    rintro _ hmem bare hbare rfl
    obtain ⟨ending, hending, hcall⟩ := List.mem_map.mp hmem
    exact append_notMem_bareNames name ending hending (hcall ▸ hbare)
  have hfixed : databaseName ≠ skipListName := by decide
  rw [fileNames, List.nodup_append, and_iff_right hcalled, and_iff_left hapart, bareNames]
  simp [hfixed]

end Names

section Files

variable (a : Artifacts)

/-- All files are called by names of files, in bytes. -/
theorem isFileName_toOctets_of_mem_fileNames :
    ∀ file ∈ fileNames a.name, Path.IsFileName (Text.toOctets file) := fun file hfile =>
  Path.isFileName_toOctets file (isFileName_of_mem_fileNames a.name a.isName file hfile)

/-- A file has the components of the directory and its own name behind them. -/
theorem components_file : ∀ file ∈ fileNames a.name,
    (a.file file).components = a.directory.components ++ [.normal (Text.toOctets file)] :=
  fun file hfile => Path.components_join_fileName a.directory _
    (isFileName_toOctets_of_mem_fileNames a file hfile)

/-- A file has a path. -/
theorem file_ne_empty : ∀ file ∈ fileNames a.name, a.file file ≠ .empty := by
  intro file hfile hempty
  have hcomponents := a.components_file file hfile
  rw [hempty] at hcomponents
  exact List.append_ne_nil_of_right_ne_nil _ (List.cons_ne_nil _ _) hcomponents.symm

/-- A text writes the path of a file exactly when a text writes that of the directory. -/
theorem isText_file_iff : ∀ file ∈ fileNames a.name, ((a.file file).IsText ↔ a.directory.IsText) := by
  intro file hfile
  have hrelative : (Path.ofText file).isAbsolute = false :=
    Path.isAbsolute_octets_of_isStep (.normal _) (isFileName_toOctets_of_mem_fileNames a file hfile)
  exact ⟨Path.isText_of_join a.directory _ hrelative, fun h => h.join ⟨file, rfl⟩⟩

end Files

/-- The files of an accepted name lie directly in the directory: each has the components of the
directory and one name of a file behind them. No two of them are the same file exactly when the name is
neither that of the database nor that of the skip list. -/
theorem files_apart_iff (directory : Path) (name : String) (a : Artifacts)
    (h : ofName directory name = .ok a) :
    (∀ p ∈ a.files, ∃ file, Path.IsFileName file ∧
        p.components = directory.components ++ [.normal file]) ∧
      ((a.files.map Path.components).Nodup ↔ name ≠ databaseName ∧ name ≠ skipListName) := by
  have hmade : a.directory = directory ∧ a.name = name := by
    unfold ofName at h
    split at h
    · cases h
      exact ⟨rfl, rfl⟩
    · cases h
  obtain ⟨rfl, rfl⟩ := hmade
  constructor
  · intro p hp
    rw [files_eq] at hp
    obtain ⟨file, hfile, rfl⟩ := List.mem_map.mp hp
    exact ⟨_, isFileName_toOctets_of_mem_fileNames a file hfile, a.components_file file hfile⟩
  · have hmap : a.files.map Path.components = (fileNames a.name).map fun file =>
        a.directory.components ++ [.normal (Text.toOctets file)] := by
      rw [files_eq, List.map_map]
      refine List.map_congr_left fun file hfile => ?_
      rw [Function.comp_apply, a.components_file file hfile]
    have hinjective : Function.Injective fun file =>
        a.directory.components ++ [Path.Component.normal (Text.toOctets file)] := by
      intro file file' heq
      rw [List.append_cancel_left_eq, List.cons.injEq, Path.Component.normal.injEq] at heq
      exact Text.toOctets_injective heq.1
    rw [hmap, List.nodup_map_iff hinjective, nodup_fileNames_iff]

/-- Files that are called like the database but for its ending, in a directory with a detour. -/
def almostDatabase : Artifacts := ⟨⟨"/p//out/."⟩, "compile_commands", by decide⟩

/-- They are apart from the database and from each other. -/
theorem files_apart_almostDatabase :
    ofName ⟨"/p//out/."⟩ "compile_commands" = .ok almostDatabase ∧
      (∃ file, Path.IsFileName file ∧ almostDatabase.executable.components =
        Path.components ⟨"/p//out/."⟩ ++ [.normal file]) ∧
      (almostDatabase.files.map Path.components).Nodup := by
  have hmade : ofName ⟨"/p//out/."⟩ "compile_commands" = .ok almostDatabase := rfl
  obtain ⟨hbelow, hapart⟩ := files_apart_iff _ _ _ hmade
  exact ⟨hmade, hbelow almostDatabase.executable (by simp [files]), hapart.mpr (by decide)⟩

/-- An executable that is called like the database is the database, and one that is called like the
skip list is the skip list. -/
theorem executable_takes_place_of_database :
    (∃ a, ofName ⟨"/p/amalgamated"⟩ "compile_commands.json" = .ok a ∧
        a.executable = a.database ∧ ¬ a.files.Nodup) ∧
      ∃ a, ofName ⟨"/p/amalgamated"⟩ "files_with_errors.txt" = .ok a ∧
        a.executable = a.skipList ∧ ¬ a.files.Nodup := by
  constructor
  · exact ⟨⟨_, _, by decide⟩, rfl, rfl, by decide⟩
  · exact ⟨⟨_, _, by decide⟩, rfl, rfl, by decide⟩

end UnityBuild.Artifacts
