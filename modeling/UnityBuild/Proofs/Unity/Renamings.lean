import UnityBuild.Proofs.Command.Reader
import UnityBuild.Proofs.Resolution
import UnityBuild.Unity.Basic

/-!
# Renamings reach the files that a clash names

The spelling of a unit is computed from its record, and the spelling of a clash from the place that
the compiler prints. Where spellings lose no bytes, both lead to the same file or to different ones, so
the block of a unit renames exactly the identifiers that some diagnostic reports in its source, and a
unit that no diagnostic names keeps the block that it has without renamings. Bytes that are not UTF-8 are
lost, and then a clash can be renamed in files that no diagnostic names, see
`lost_bytes_rename_other_files`.

Main statement: `block_renames_iff_reported`.
-/

namespace UnityBuild.Unity

/-- A block renames an identifier when it defines the new name in front of its include and frees
the identifier behind it. -/
def Block.Renames (b : Block) (change : Renaming) : Prop :=
  ∃ path front back, b.lines = front ++ .includeFile path :: back ∧
    .rename change ∈ front ∧ .undefine change.identifier ∈ back

/-- The lines of a unit's block rename what the table lists for the unit. -/
theorem Block.rename_mem_lines_ofUnit_iff (u : SourceUnit) (common : CommonDefines)
    (table : RenamingTable) (change : Renaming) :
    .rename change ∈ (Block.ofUnit u common table).lines ↔
      change ∈ table.renamingsFor u.path u.identifier := by
  simp [Block.ofUnit, Block.opening, Block.closing]

/-- The block of a unit renames what the table lists for the unit. -/
theorem Block.renames_ofUnit_iff (u : SourceUnit) (common : CommonDefines) (table : RenamingTable)
    (change : Renaming) :
    (Block.ofUnit u common table).Renames change ↔
      change ∈ table.renamingsFor u.path u.identifier := by
  constructor
  · rintro ⟨path, front, back, hlines, hfront, -⟩
    rw [← Block.rename_mem_lines_ofUnit_iff u common table change, hlines]
    exact List.mem_append_left _ hfront
  · intro hchange
    refine ⟨u.path, _, _, rfl, ?_, ?_⟩
    · exact List.mem_append_right _ (List.mem_map_of_mem hchange)
    · apply List.mem_map_of_mem
      rw [List.mem_reverse]
      exact List.mem_append_right _ (List.mem_map_of_mem hchange)

/-- The texts of a unit's block: its own definitions, a line for each identifier of its file, the include,
and what takes the names back in opposite order. -/
theorem Block.texts_ofUnit (u : SourceUnit) (common : CommonDefines) (table : RenamingTable) :
    (Block.ofUnit u common table).texts =
      (common.localDefines u).map Define.defineDirective ++
        (table.identifiersFor u.path).map (fun identifier =>
          "#define " ++ identifier ++ " " ++ Naming.qualify u.identifier identifier) ++
        ["#include \"" ++ u.path ++ "\""] ++
        (table.identifiersFor u.path).reverse.map (fun identifier => "#undef " ++ identifier) ++
        (common.localDefines u).reverse.map (fun d => "#undef " ++ d.macroName) := by
  simp [Block.texts, Block.ofUnit, Block.opening, Block.closing, RenamingTable.renamingsFor,
    Directive.text, Function.comp_def]

/-- A unit for which the table lists nothing has the block that it has without renamings. -/
theorem Block.ofUnit_eq_of_renamingsFor_eq_nil (u : SourceUnit) (common : CommonDefines)
    (table : RenamingTable) (hfree : table.renamingsFor u.path u.identifier = []) :
    Block.ofUnit u common table = Block.ofUnit u common .empty := by
  have hempty : RenamingTable.empty.renamingsFor u.path u.identifier = [] := rfl
  rw [Block.ofUnit, Block.ofUnit, hfree, hempty]

/-- When no two units are known under one spelling, the block for the spelling of an included unit
is the block of this unit. -/
theorem Plan.blockFor?_build (p : Plan) (units : List SourceUnit) (common : CommonDefines)
    (skip : SkipSet) (table : RenamingTable) (hdistinct : (units.map SourceUnit.path).Nodup)
    (u : SourceUnit) (hu : u ∈ p.retained skip units) :
    (p.build units common skip table).blockFor? u.path = some (.ofUnit u common table) := by
  have hmember (v : SourceUnit) (hv : v ∈ p.retained skip units) : v ∈ units :=
    (List.mem_filter.mp hv).1
  rw [Source.blockFor?, build, List.find?_cons_of_neg (by simp [Block.bootstrap]), List.find?_map,
    Option.map_eq_some_iff]
  cases hfind : (p.retained skip units).find?
      ((fun b => b.path == some u.path) ∘ fun u => Block.ofUnit u common table) with
  | none =>
    have hnone := List.find?_eq_none.mp hfind u hu
    simp [Block.ofUnit] at hnone
  | some v =>
    have hpath : v.path = u.path := by simpa [Block.ofUnit] using List.find?_some hfind
    have hv := hmember v (List.mem_of_find?_eq_some hfind)
    have hsame : v = u := List.inj_on_of_nodup_map hdistinct hv (hmember u hu) hpath
    exact ⟨v, rfl, by rw [hsame]⟩

/-- The block of an included unit renames exactly the identifiers that a diagnostic reports in the
unit's source, each to its qualified name, where texts write the ways to the sources and to the places
of the diagnostics. In its text these identifiers are given their new names by the lines in front of the
include, and freed by the lines behind it. A unit in whose source nothing is reported keeps the block
that it has without renamings. The source itself, the spelling of the unit and the spelling read from
the root all count as places in the source. -/
theorem block_renames_iff_reported (reader : Command.Reader) (records : List CompileRecord)
    (units : List SourceUnit) (p : Plan) (skip : SkipSet) (common : CommonDefines)
    (succeeded : Bool) (diagnostics : List Diagnostic) (hroot : reader.root.isAbsolute = true)
    (hdirectories : ∀ r ∈ records, r.directory.isAbsolute = true)
    (htexts : ∀ r ∈ records, (r.sourcePath.relativeTo reader.root).IsText)
    (hplaces : Diagnostic.NamesTexts reader.root diagnostics)
    (hdistinct : (records.map CompileRecord.sourcePath).Nodup)
    (hread : reader.readAll records = .ok units) (u : SourceUnit) (hu : u ∈ p.retained skip units) :
    ∃ (block : Block) (identifiers : List String),
      (p.build units common skip
        (Resolution.extract reader.root succeeded diagnostics).table).blockFor? u.path =
          some block ∧
      (∀ change, block.Renames change ↔
        change.newName = Naming.qualify u.identifier change.identifier ∧
          Diagnostic.Reported reader.root diagnostics u.source change.identifier) ∧
      (∀ identifier, identifier ∈ identifiers ↔
        Diagnostic.Reported reader.root diagnostics u.source identifier) ∧
      block.texts =
        (common.localDefines u).map Define.defineDirective ++
          identifiers.map (fun identifier =>
            "#define " ++ identifier ++ " " ++ Naming.qualify u.identifier identifier) ++
          ["#include \"" ++ u.path ++ "\""] ++
          identifiers.reverse.map (fun identifier => "#undef " ++ identifier) ++
          (common.localDefines u).reverse.map (fun d => "#undef " ++ d.macroName) ∧
      ((∀ identifier, ¬ Diagnostic.Reported reader.root diagnostics u.source identifier) →
        (p.build units common skip .empty).blockFor? u.path = some block) ∧
      ∀ spelling ∈ [u.source, .ofText u.path, reader.root.join (.ofText u.path)],
        spelling.resolve reader.root = u.source := by
  generalize htable : (Resolution.extract reader.root succeeded diagnostics).table = table
  have hplaced := reader.isPlaced_of_readAll records units hdirectories htexts hread u
    (List.mem_filter.mp hu).1
  have hpaths := reader.nodup_paths_of_readAll records units hroot hdirectories htexts hdistinct hread
  have hreported (identifier : String) : (u.path, identifier) ∈ table.pairs ↔
      Diagnostic.Reported reader.root diagnostics u.source identifier := by
    rw [← htable, hplaced.known]
    exact Resolution.mem_extract_table_iff_reported reader.root succeeded diagnostics u.source
      identifier hroot hplaced.absolute hplaced.normal hplaced.text hplaces
  refine ⟨.ofUnit u common table, table.identifiersFor u.path,
    p.blockFor?_build units common skip table hpaths u hu, ?_, ?_, Block.texts_ofUnit u common table,
    ?_, ?_⟩
  · intro change
    rw [Block.renames_ofUnit_iff, RenamingTable.mem_renamingsFor, hreported, and_comm]
  · intro identifier
    rw [RenamingTable.mem_identifiersFor, hreported]
  · intro hnone
    have hfree : table.renamingsFor u.path u.identifier = [] :=
      table.renamingsFor_eq_nil u.path u.identifier fun identifier hpair =>
        hnone identifier ((hreported identifier).mp hpair)
    rw [Block.ofUnit_eq_of_renamingsFor_eq_nil u common table hfree]
    exact p.blockFor?_build units common skip .empty hpaths u hu
  · simp only [List.forall_mem_cons, List.not_mem_nil, false_implies, implies_true, and_true]
    exact ⟨hplaced.resolve_source reader.root u, hplaced.resolve_path reader.root u hroot,
      hplaced.resolve_join_path reader.root u hroot⟩

/-- A reader of projects at a fixed root. -/
def fixedReader : Command.Reader := ⟨⟨"/p"⟩, .standard, []⟩

/-- The records of two files, one of them written with a detour. -/
def twoRecords : List CompileRecord :=
  [⟨⟨"/p/build"⟩, ⟨"../src/./x.c"⟩, some ["cc", "-o", "x.o", "-c", "x.c"], none, none⟩,
    ⟨⟨"/p"⟩, ⟨"/p/y.c"⟩, some ["cc", "-o", "y.o", "-c", "y.c"], none, none⟩]

/-- The units of the two files. -/
def twoUnits : List SourceUnit :=
  [⟨⟨"/p/src/x.c"⟩, "src/x.c", [], [], []⟩, ⟨⟨"/p/y.c"⟩, "y.c", [], [], []⟩]

/-- A report of a clash below another message, at a place that is written with another detour. -/
def nestedReport : List Diagnostic :=
  [⟨"warning", "unused variable", [],
    [⟨"error", "redefinition of 'helper'", [⟨none⟩, ⟨some ⟨⟨"lib/../src/x.c"⟩, 3, 5⟩⟩], []⟩]⟩]

/-- The clash of a nested report is renamed in the file that the report names. -/
theorem nestedReport_renames_helper :
    (twoRecords.map CompileRecord.sourcePath).Nodup ∧
      fixedReader.readAll twoRecords = .ok twoUnits ∧
      ∃ block, (Plan.sample.build twoUnits (.hoist twoUnits) .empty
          (Resolution.extract fixedReader.root false nestedReport).table).blockFor? "src/x.c" =
            some block ∧ block.Renames ⟨"helper", "src_x_c__helper"⟩ ∧
              "#define helper src_x_c__helper" ∈ block.texts := by
  have hdistinct : (twoRecords.map CompileRecord.sourcePath).Nodup := by decide
  have hread : fixedReader.readAll twoRecords = .ok twoUnits := by rfl
  have htexts : ∀ r ∈ twoRecords, (r.sourcePath.relativeTo fixedReader.root).IsText := by
    simp only [twoRecords, List.forall_mem_cons, List.not_mem_nil, false_implies, implies_true, and_true]
    exact ⟨⟨"src/x.c", by decide +kernel⟩, ⟨"y.c", by decide +kernel⟩⟩
  have hplaces : Diagnostic.NamesTexts fixedReader.root nestedReport := by
    refine Diagnostic.namesTexts_of_isText _ _ (by decide) ?_
    simp only [nestedReport, Diagnostic.flattenAll, Diagnostic.flatten, List.append_nil,
      List.forall_mem_cons, List.not_mem_nil, false_implies, implies_true, and_true]
    constructor
    · rintro place ⟨⟩
    · rintro place ⟨⟩
      exact ⟨"lib/../src/x.c", by decide⟩
  obtain ⟨block, identifiers, hblock, hrenames, hidentifiers, hlines, -, -⟩ :=
    block_renames_iff_reported fixedReader twoRecords twoUnits Plan.sample .empty (.hoist twoUnits) false
      nestedReport (by decide) (by decide) htexts hplaces hdistinct hread twoUnits[0] (by decide)
  have hreported : Diagnostic.Reported fixedReader.root nestedReport ⟨"/p/src/x.c"⟩ "helper" :=
    ⟨_, List.mem_cons_self, _, .child _ _ List.mem_cons_self .self, by decide, _, rfl, by decide⟩
  have hmem : "helper" ∈ identifiers := (hidentifiers "helper").mpr hreported
  refine ⟨hdistinct, hread, block, hblock, (hrenames _).mpr ⟨by decide, hreported⟩, ?_⟩
  rw [hlines]
  have hline : "#define helper src_x_c__helper" =
      "#define " ++ "helper" ++ " " ++ Naming.qualify twoUnits[0].identifier "helper" := by decide
  simp only [List.mem_append, List.mem_map]
  exact .inl (.inl (.inl (.inr ⟨"helper", hmem, hline.symm⟩)))

/-- The records of two files whose names differ in a byte that is not UTF-8. -/
def lossyRecords : List CompileRecord :=
  [⟨⟨"/p"⟩, ⟨"\xff.c"⟩, some ["cc", "-o", "x.o", "-c", "x.c"], none, none⟩,
    ⟨⟨"/p"⟩, ⟨"\xfe.c"⟩, some ["cc", "-o", "y.o", "-c", "y.c"], none, none⟩]

/-- The units of the two files, which have one spelling. -/
def lossyUnits : List SourceUnit :=
  [⟨⟨"/p/\xff.c"⟩, "\ufffd.c", [], [], []⟩, ⟨⟨"/p/\xfe.c"⟩, "\ufffd.c", [], [], []⟩]

/-- A report of a clash in a file that is called as the spelling says. -/
def spelledReport : List Diagnostic :=
  [⟨"error", "redefinition of 'helper'", [⟨some ⟨.ofText "\ufffd.c", 3, 5⟩⟩], []⟩]

/-- A clash that is reported in a third file is renamed in the blocks of two files whose names lose their
bytes. -/
theorem lost_bytes_rename_other_files :
    let table := (Resolution.extract fixedReader.root false spelledReport).table
    let source := Plan.sample.build lossyUnits (.hoist lossyUnits) .empty table
    (∀ r ∈ lossyRecords, r.directory.isAbsolute = true) ∧
      (lossyRecords.map CompileRecord.sourcePath).Nodup ∧
      fixedReader.readAll lossyRecords = .ok lossyUnits ∧
      ∀ u ∈ lossyUnits, .ofUnit u (.hoist lossyUnits) table ∈ source.blocks ∧
        (Block.ofUnit u (.hoist lossyUnits) table).Renames ⟨"helper", "_c__helper"⟩ ∧
        ¬ Diagnostic.Reported fixedReader.root spelledReport u.source "helper" := by
  intro table source
  have hretained : ∀ u ∈ lossyUnits, u ∈ Plan.sample.retained .empty lossyUnits := by decide +kernel
  have hrenames : ∀ u ∈ lossyUnits, ⟨"helper", "_c__helper"⟩ ∈ table.renamingsFor u.path u.identifier := by
    decide +kernel
  have hother : ∀ u ∈ lossyUnits, (Path.ofText "\ufffd.c").resolve fixedReader.root ≠ u.source := by
    decide +kernel
  refine ⟨by decide, by decide +kernel, by rfl, fun u hu => ⟨?_, ?_, ?_⟩⟩
  · exact List.mem_cons_of_mem _ (List.mem_map_of_mem (hretained u hu))
  · exact (Block.renames_ofUnit_iff u _ _ _).mpr (hrenames u hu)
  · rintro ⟨outer, houter, d, hd, -, place, hplace, hleads⟩
    have hmem := (Diagnostic.mem_flattenAll_iff d spelledReport).mpr ⟨outer, houter, hd⟩
    simp only [spelledReport, Diagnostic.flattenAll, Diagnostic.flatten, List.append_nil,
      List.mem_singleton] at hmem
    subst hmem
    rw [← Option.some.inj hplace] at hleads
    exact hother u hu hleads

end UnityBuild.Unity
