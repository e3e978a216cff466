import UnityBuild.Command.Reader
import UnityBuild.Proofs.CommonDefines
import UnityBuild.Proofs.Path.Spelling
import UnityBuild.Proofs.Results

/-!
# Where the units of a project stand

A unit keeps the source of the record that it is read from and is known by its way from the root.
When the root and the directories of the records are absolute, sources are absolute and in normal
form, so units of different sources are known under different spellings, as long as texts write the
ways to the sources.
-/

namespace UnityBuild

/-- A unit whose source is absolute and in normal form, and which is known by its way from the
root, a way that a text writes. -/
structure SourceUnit.IsPlaced (root : Path) (u : SourceUnit) : Prop where
  absolute : u.source.isAbsolute = true
  normal : u.source.normalize = u.source
  known : u.path = u.source.relativeSlash root
  text : (u.source.relativeTo root).IsText

namespace SourceUnit.IsPlaced

/-- Placed units that are known under one spelling have one source. -/
theorem source_eq_of_path_eq (root : Path) (u v : SourceUnit) (hroot : root.isAbsolute = true)
    (hu : u.IsPlaced root) (hv : v.IsPlaced root) (hpath : u.path = v.path) :
    u.source = v.source := by
  rw [hu.known, hv.known, Path.relativeSlash_eq_iff _ root _ hu.text hv.text,
    Path.relativeTo_eq_iff _ _ root hu.absolute hv.absolute hroot, hu.normal, hv.normal] at hpath
  exact hpath

/-- The absolute path of a placed unit leads to its source. -/
theorem resolve_source (root : Path) (u : SourceUnit) (hu : u.IsPlaced root) :
    u.source.resolve root = u.source := by
  rw [Path.resolve, if_pos hu.absolute, hu.normal]

/-- The spelling under which a placed unit is known leads to its source. -/
theorem resolve_path (root : Path) (u : SourceUnit) (hroot : root.isAbsolute = true)
    (hu : u.IsPlaced root) : (Path.ofText u.path).resolve root = u.source := by
  rw [hu.known, Path.resolve_relativeSlash u.source root hu.absolute hroot hu.text, hu.normal]

/-- The spelling of a placed unit, read from the root beforehand, leads to its source. -/
theorem resolve_join_path (root : Path) (u : SourceUnit) (hroot : root.isAbsolute = true)
    (hu : u.IsPlaced root) : (root.join (.ofText u.path)).resolve root = u.source := by
  have hrelative : (Path.ofText u.path).isAbsolute = false := by
    rw [hu.known, Path.ofText_relativeSlash_of_isText u.source root hu.text]
    exact Path.isAbsolute_relativeTo u.source root hu.absolute hroot
  have hway := hu.resolve_path root u hroot
  rw [Path.resolve, hrelative, if_neg Bool.false_ne_true] at hway
  rw [Path.resolve, if_pos (Path.isAbsolute_join root (.ofText u.path) hroot), hway]

end SourceUnit.IsPlaced

namespace Command.Reader

/-- A unit keeps the source of its record and is known by its way from the root. -/
theorem source_path_of_read (reader : Reader) (record : CompileRecord) (u : SourceUnit)
    (h : reader.read record = .ok u) :
    u.source = record.sourcePath ∧ u.path = record.relativeSource reader.root := by
  simp only [read, Results.bind_eq_ok_iff, Results.mapError_eq_ok_iff] at h
  obtain ⟨_, -, hunit⟩ := h
  obtain ⟨_, -, hmade⟩ := (SourceUnit.ofFlags_eq_ok_iff _ _ _ _).mp hunit
  rw [hmade]
  simp only [and_self]

/-- A unit that is read from a record with an absolute directory is placed, if its way is a text's. -/
theorem isPlaced_of_read (reader : Reader) (record : CompileRecord) (u : SourceUnit)
    (hdirectory : record.directory.isAbsolute = true)
    (htext : (record.sourcePath.relativeTo reader.root).IsText) (h : reader.read record = .ok u) :
    u.IsPlaced reader.root := by
  obtain ⟨hsource, hpath⟩ := reader.source_path_of_read record u h
  constructor
  · rw [hsource]
    exact Path.isAbsolute_resolve record.file record.directory hdirectory
  · rw [hsource]
    exact Path.normalize_resolve record.file record.directory
  · rw [hpath, hsource]
    rfl
  · rwa [hsource]

/-- The units of records with absolute directories are placed, if their ways are texts'. -/
theorem isPlaced_of_readAll (reader : Reader) (records : List CompileRecord)
    (units : List SourceUnit) (hdirectories : ∀ r ∈ records, r.directory.isAbsolute = true)
    (htexts : ∀ r ∈ records, (r.sourcePath.relativeTo reader.root).IsText)
    (h : reader.readAll records = .ok units) (u : SourceUnit) (hu : u ∈ units) :
    u.IsPlaced reader.root := by
  obtain ⟨record, hrecord, hread⟩ := Lists.exists_of_mem_mapM _ _ _ h u hu
  exact reader.isPlaced_of_read record u (hdirectories record hrecord) (htexts record hrecord) hread

/-- The units of all records have the sources of the records, in order. -/
theorem map_source_of_readAll (reader : Reader) (records : List CompileRecord)
    (units : List SourceUnit) (h : reader.readAll records = .ok units) :
    units.map SourceUnit.source = records.map CompileRecord.sourcePath := by
  have hall := (Lists.mapM_eq_ok_iff _ _ _).mp h
  induction hall with
  | nil => rfl
  | cons hread _ ih =>
    rw [List.map_cons, List.map_cons, (reader.source_path_of_read _ _ hread).1,
      ih ((Lists.mapM_eq_ok_iff _ _ _).mpr ‹_›)]

/-- Units of different sources are known under different spellings. -/
theorem nodup_paths_of_readAll (reader : Reader) (records : List CompileRecord)
    (units : List SourceUnit) (hroot : reader.root.isAbsolute = true)
    (hdirectories : ∀ r ∈ records, r.directory.isAbsolute = true)
    (htexts : ∀ r ∈ records, (r.sourcePath.relativeTo reader.root).IsText)
    (hdistinct : (records.map CompileRecord.sourcePath).Nodup)
    (h : reader.readAll records = .ok units) : (units.map SourceUnit.path).Nodup := by
  rw [← reader.map_source_of_readAll records units h] at hdistinct
  have hplaced := reader.isPlaced_of_readAll records units hdirectories htexts h
  apply List.Nodup.map_on _ hdistinct.of_map
  intro u hu v hv hpath
  have hsource := SourceUnit.IsPlaced.source_eq_of_path_eq reader.root u v hroot (hplaced u hu)
    (hplaced v hv) hpath
  exact List.inj_on_of_nodup_map hdistinct hu hv hsource

end Command.Reader

end UnityBuild
