import UnityBuild.Proofs.Database.Loading
import UnityBuild.Proofs.Unity.Renamings

/-!
# Every source is included once

The records of a database have sources of their own, and the units that are read from them are
known by the way from the root to the source. For absolute sources the two agree: different
sources have different ways. A relative source is known as it is, so it can be spelled like the way
to an absolute source, and this is the only case in which two units share a spelling. Otherwise
each unit is included once and its block is the only one of its spelling.

Main statement: `included_once_iff`.
-/

namespace UnityBuild

namespace Command.Reader

/-- The units of all records are known by the spellings of the records, in order. -/
theorem map_path_of_readAll (reader : Reader) (records : List CompileRecord)
    (units : List SourceUnit) (h : reader.readAll records = .ok units) :
    units.map SourceUnit.path = records.map fun r => r.relativeSource reader.root := by
  have hall := (Lists.mapM_eq_ok_iff _ _ _).mp h
  induction hall with
  | nil => rfl
  | cons hread _ ih =>
    rw [List.map_cons, List.map_cons, (reader.source_path_of_read _ _ hread).2,
      ih ((Lists.mapM_eq_ok_iff _ _ _).mpr ‹_›)]

/-- Units that are read from records with sources of their own share a spelling only when the
relative source of one record spells the way to the absolute source of another. -/
theorem nodup_paths_iff (reader : Reader) (records : List CompileRecord) (units : List SourceUnit)
    (hroot : reader.root.isAbsolute = true) (htexts : ∀ r ∈ records, r.IsText)
    (hdistinct : (records.map CompileRecord.sourcePath).Nodup)
    (h : reader.readAll records = .ok units) :
    (units.map SourceUnit.path).Nodup ↔
      ∀ r ∈ records, ∀ r' ∈ records, r.sourcePath.isAbsolute = true →
        r'.sourcePath ≠ r.sourcePath.relativeTo reader.root := by
  have hspelled (r r' : CompileRecord) (hr : r ∈ records) (hr' : r' ∈ records) :
      r.relativeSource reader.root = r'.relativeSource reader.root ↔ _ :=
    (Path.relativeSlash_eq_iff _ _ _ ((htexts r hr).sourcePath.relativeTo _)
      ((htexts r' hr').sourcePath.relativeTo _)).trans
        (Path.relativeTo_eq_iff_of_normal r.sourcePath r'.sourcePath reader.root hroot
          (Path.normalize_resolve _ _) (Path.normalize_resolve _ _))
  rw [reader.map_path_of_readAll records units h]
  constructor
  · intro hpaths r hr r' hr' habsolute hway
    have hsame := List.inj_on_of_nodup_map hpaths hr hr'
      ((hspelled r r' hr hr').mpr (.inr (.inl ⟨habsolute, hway⟩)))
    have hrelative := Path.isAbsolute_relativeTo r.sourcePath reader.root habsolute hroot
    rw [← hway, ← hsame, habsolute] at hrelative
    cases hrelative
  · intro hapart
    apply List.Nodup.map_on _ hdistinct.of_map
    intro r hr r' hr' hspelling
    rcases (hspelled r r' hr hr').mp hspelling with hsource | ⟨habsolute, hway⟩ | ⟨habsolute, hway⟩
    · exact List.inj_on_of_nodup_map hdistinct hr hr' hsource
    · exact absurd hway (hapart r hr r' hr' habsolute)
    · exact absurd hway (hapart r' hr' r hr habsolute)

end Command.Reader

namespace Unity

section Included

variable (p : Plan) (units : List SourceUnit) (common : CommonDefines) (skip : SkipSet)
  (table : RenamingTable)

/-- The included files are the spellings of the included units, in order. -/
theorem Plan.includedFiles_build :
    (p.build units common skip table).includedFiles = (p.retained skip units).map SourceUnit.path := by
  rw [Source.includedFiles, Plan.build, List.filterMap_cons_none rfl, List.filterMap_map]
  exact congrFun List.filterMap_eq_map _

/-- When no two units share a spelling, no file is included twice. -/
theorem Plan.nodup_includedFiles_build (hpaths : (units.map SourceUnit.path).Nodup) :
    (p.build units common skip table).includedFiles.Nodup := by
  rw [p.includedFiles_build units common skip table]
  exact hpaths.sublist (List.filter_sublist.map _)

/-- In a list of blocks that include different files, the block that is found for a file is the only
one that includes it. -/
theorem Source.filter_eq_of_blockFor? (s : Source) (hincluded : s.includedFiles.Nodup)
    (path : String) (b : Block) (hb : s.blockFor? path = some b) :
    s.blocks.filter (fun b => b.path == some path) = [b] := by
  unfold includedFiles at hincluded
  unfold blockFor? at hb
  generalize s.blocks = blocks at hincluded hb ⊢
  induction blocks with
  | nil => cases hb
  | cons b' blocks ih =>
    by_cases hpath : b'.path = some path
    · rw [List.find?_cons_of_pos (by simp [hpath])] at hb
      rw [List.filter_cons_of_pos (by simp [hpath]), ← Option.some.inj hb]
      rw [List.filterMap_cons_some hpath] at hincluded
      have hothers : blocks.filter (fun b => b.path == some path) = [] := by
        apply List.filter_eq_nil_iff.mpr
        intro c hc hsame
        exact (List.nodup_cons.mp hincluded).1 (List.mem_filterMap.mpr ⟨c, hc, eq_of_beq hsame⟩)
      rw [hothers]
    · rw [List.find?_cons_of_neg (by simp [hpath])] at hb
      rw [List.filter_cons_of_neg (by simp [hpath])]
      exact ih (hincluded.sublist ((List.sublist_cons_self b' blocks).filterMap _)) hb

/-- When no two units share a spelling, an included file has exactly one block, which is found for
it. -/
theorem Plan.exists_only_block_build (hpaths : (units.map SourceUnit.path).Nodup) (path : String)
    (hpath : path ∈ (p.build units common skip table).includedFiles) :
    ∃ b, (p.build units common skip table).blockFor? path = some b ∧
      (p.build units common skip table).blocks.filter (fun b => b.path == some path) = [b] := by
  have hnodup := p.nodup_includedFiles_build units common skip table hpaths
  rw [p.includedFiles_build units common skip table] at hpath
  obtain ⟨u, hu, rfl⟩ := List.mem_map.mp hpath
  have hblock := p.blockFor?_build units common skip table hpaths u hu
  exact ⟨_, hblock, Source.filter_eq_of_blockFor? _ hnodup u.path _ hblock⟩

end Included

/-- The units of a database have spellings of their own exactly when no relative source of it spells
the way from the root to an absolute one. Then no merged source includes a file twice, and the block
that is found for an included file is the only one that includes it. -/
theorem included_once_iff (reader : Command.Reader) (text : String) (records : List CompileRecord)
    (units : List SourceUnit) (hroot : reader.root.isAbsolute = true)
    (hparse : Database.parse text = .ok records) (hread : reader.readAll records = .ok units) :
    ((units.map SourceUnit.path).Nodup ↔
      ∀ r ∈ records, ∀ r' ∈ records, r.sourcePath.isAbsolute = true →
        r'.sourcePath ≠ r.sourcePath.relativeTo reader.root) ∧
    ((units.map SourceUnit.path).Nodup → ∀ (p : Plan) common skip table,
      (p.build units common skip table).includedFiles.Nodup ∧
      ∀ path ∈ (p.build units common skip table).includedFiles,
        ∃ b, (p.build units common skip table).blockFor? path = some b ∧
          (p.build units common skip table).blocks.filter (fun b => b.path == some path) = [b]) := by
  have hdistinct := Database.nodup_sourcePath_of_parse text records hparse
  have htexts := Database.isText_of_parse text records hparse
  refine ⟨reader.nodup_paths_iff records units hroot htexts hdistinct hread, ?_⟩
  intro hpaths p common skip table
  exact ⟨p.nodup_includedFiles_build units common skip table hpaths, fun path hpath =>
    p.exists_only_block_build units common skip table hpaths path hpath⟩

/-- The records of two files of one name, below the root and in the working directory. -/
def apartRecords : List CompileRecord :=
  [⟨⟨"/p/src"⟩, ⟨"a.c"⟩, some ["cc", "-o", "a.o", "-c", "a.c"], none, none⟩,
    ⟨⟨"."⟩, ⟨"a.c"⟩, some ["cc", "-o", "a.o", "-c", "a.c"], none, none⟩]

/-- The units of the two files. -/
def apartUnits : List SourceUnit :=
  [⟨⟨"/p/src/a.c"⟩, "src/a.c", [], [], []⟩, ⟨⟨"a.c"⟩, "a.c", [], [], []⟩]

/-- An absolute source and a relative one that does not spell the way to it are included once
each. -/
theorem apartUnits_included_once :
    ∃ text, databaseText? apartRecords = some text ∧
      Database.parse text = .ok apartRecords ∧
      fixedReader.readAll apartRecords = .ok apartUnits ∧
      (Plan.sample.build apartUnits (.hoist apartUnits) .empty .empty).includedFiles.Nodup := by
  have htext : (databaseText? apartRecords).isSome = true := by decide +kernel
  obtain ⟨text, htext⟩ := Option.isSome_iff_exists.mp htext
  have hparse : Database.parse text = .ok apartRecords := by
    rw [Database.parse_databaseText? _ _ htext]
    rfl
  have hread : fixedReader.readAll apartRecords = .ok apartUnits := by rfl
  obtain ⟨hpaths, honce⟩ := included_once_iff fixedReader text apartRecords apartUnits (by decide)
    hparse hread
  exact ⟨text, htext, hparse, hread, (honce (hpaths.mpr (by decide)) .sample _ .empty .empty).1⟩

/-- The records of one file, listed in the root and in the working directory. -/
def doubledRecords : List CompileRecord :=
  [⟨⟨"/p"⟩, ⟨"a.c"⟩, some ["cc", "-o", "a.o", "-c", "a.c"], none, none⟩,
    ⟨⟨"."⟩, ⟨"a.c"⟩, some ["cc", "-o", "a.o", "-c", "a.c"], none, none⟩]

/-- The units of the two records. -/
def doubledUnits : List SourceUnit :=
  [⟨⟨"/p/a.c"⟩, "a.c", [], [], []⟩, ⟨⟨"a.c"⟩, "a.c", [], [], []⟩]

/-- A file that is listed with an absolute and with a relative directory is included twice. -/
theorem relative_directory_doubles_source :
    ∃ text, databaseText? doubledRecords = some text ∧
      Database.parse text = .ok doubledRecords ∧
      fixedReader.readAll doubledRecords = .ok doubledUnits ∧
      ¬ (doubledUnits.map SourceUnit.path).Nodup ∧
      (Plan.sample.build doubledUnits (.hoist doubledUnits) .empty .empty).includedFiles =
        ["a.c", "a.c"] := by
  have htext : (databaseText? doubledRecords).isSome = true := by decide +kernel
  obtain ⟨text, htext⟩ := Option.isSome_iff_exists.mp htext
  refine ⟨text, htext, ?_, by rfl, by decide, by decide⟩
  rw [Database.parse_databaseText? _ _ htext]
  rfl

end Unity

end UnityBuild
