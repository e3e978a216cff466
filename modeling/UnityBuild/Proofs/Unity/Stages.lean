import UnityBuild.Proofs.Renaming.Order
import UnityBuild.Proofs.Unity.Inclusions
import UnityBuild.Proofs.Unity.MacroContext

/-!
# The merged source with and without renamings

The merged source is built twice, at first without renamings and then with those that the compiler's
diagnostics call for. The flags, the commands and the record are the same both times, and so is the
first block. The block of a unit gains one line in front of its include for each identifier of its
file and one line behind it, next to the include and in opposite orders. Pairs of files that are not
included change nothing.

Main statement: `build_renamings_eq`.
-/

namespace UnityBuild.Unity

/-- The lines that rename identifiers in a file of this name. -/
def renameLines (fileName : String) (identifiers : List String) : List Directive :=
  identifiers.map fun identifier => .rename ⟨identifier, Naming.qualify fileName identifier⟩

/-- The lines that free names. -/
def undefineLines (names : List String) : List Directive :=
  names.map .undefine

/-- The texts of the lines that rename identifiers. -/
theorem map_text_renameLines (fileName : String) (identifiers : List String) :
    (renameLines fileName identifiers).map Directive.text =
      identifiers.map fun identifier =>
        "#define " ++ identifier ++ " " ++ Naming.qualify fileName identifier :=
  List.map_map

/-- The texts of the lines that free names. -/
theorem map_text_undefineLines (names : List String) :
    (undefineLines names).map Directive.text = names.map fun name => "#undef " ++ name :=
  List.map_map

/-- The renamings of a file are written as the lines that rename its identifiers. -/
theorem map_rename_renamingsFor (table : RenamingTable) (file fileName : String) :
    (table.renamingsFor file fileName).map .rename =
      renameLines fileName (table.identifiersFor file) := by
  rw [RenamingTable.renamingsFor, List.map_map]
  rfl

/-- The renamings of a file rename its identifiers. -/
theorem map_identifier_renamingsFor (table : RenamingTable) (file fileName : String) :
    (table.renamingsFor file fileName).map Renaming.identifier = table.identifiersFor file := by
  rw [RenamingTable.renamingsFor, List.map_map]
  exact List.map_id _

/-- The renamings of a unit stand next to its include, its own definitions around them. -/
theorem Block.lines_ofUnit_identifiersFor (u : SourceUnit) (common : CommonDefines)
    (table : RenamingTable) :
    (Block.ofUnit u common table).lines =
      (common.localDefines u).map .define ++
        renameLines u.identifier (table.identifiersFor u.path) ++ [.includeFile u.path] ++
          undefineLines (table.identifiersFor u.path).reverse ++
            undefineLines ((common.localDefines u).map Define.macroName).reverse := by
  rw [Block.ofUnit, Block.opening, Block.closing, map_rename_renamingsFor,
    map_identifier_renamingsFor, List.reverse_append, List.map_append]
  simp only [undefineLines, List.append_assoc, List.cons_append, List.nil_append]

namespace Plan

section Built

variable (p : Plan) (units : List SourceUnit) (common : CommonDefines) (skip : SkipSet)

/-- Behind the first block stand the blocks of the included units, in order. -/
theorem getElem?_blocks_build (table : RenamingTable) (i : Nat) (u : SourceUnit)
    (hu : (p.retained skip units)[i]? = some u) :
    (p.build units common skip table).blocks[i + 1]? = some (.ofUnit u common table) := by
  rw [build, List.getElem?_cons_succ, List.getElem?_map, hu, Option.map_some]

/-- Tables that agree on the included files give the same merged source. -/
theorem build_congr (table other : RenamingTable)
    (h : ∀ u ∈ p.retained skip units, table.identifiersFor u.path = other.identifiersFor u.path) :
    p.build units common skip table = p.build units common skip other := by
  have hblocks : (p.retained skip units).map (fun u => Block.ofUnit u common table) =
      (p.retained skip units).map fun u => Block.ofUnit u common other := by
    apply List.map_congr_left
    intro u hu
    rw [Block.ofUnit, Block.ofUnit, RenamingTable.renamingsFor, RenamingTable.renamingsFor, h u hu]
  rw [build, build, hblocks]

/-- Pairs of files that are not included can be left out of a table. -/
theorem build_filter_included (pairs : List (String × String)) :
    p.build units common skip (.ofList (pairs.filter fun pair =>
      (p.retained skip units).any fun u => u.path == pair.1)) =
        p.build units common skip (.ofList pairs) := by
  apply build_congr
  intro u hu
  apply RenamingTable.identifiersFor_congr
  intro identifier
  rw [List.mem_filter, and_iff_left]
  exact List.any_eq_true.mpr ⟨u, hu, beq_self_eq_true u.path⟩

end Built

/-- The merged source with the renamings of a table is the merged source without renamings but for
the lines that rename the identifiers of each included file. The flags, the tally, the included
files, all commands and the record are the same. The block of a unit keeps what it holds in front of
its include and behind it; in between come the new names of the file's identifiers, in strictly
increasing order of their bytes, and behind the include the lines that free them, in opposite
order. In the text these are a `#define` and an `#undef` for each identifier. The identifiers are those
that the table was given for the file, and what it was given for other files has no effect. -/
theorem build_renamings_eq (p : Plan) (units : List SourceUnit) (common : CommonDefines)
    (skip : SkipSet) (pairs : List (String × String)) :
    let table := RenamingTable.ofList pairs
    let plain := p.build units common skip .empty
    let renamed := p.build units common skip table
    (renamed.globalFlags = plain.globalFlags ∧ renamed.tally = plain.tally ∧
      renamed.includedFiles = plain.includedFiles ∧ renamed.preprocess = plain.preprocess ∧
      (∀ extra, renamed.compileWith extra = plain.compileWith extra) ∧
      (∀ arguments, renamed.link arguments = plain.link arguments) ∧
      renamed.compileRecord = plain.compileRecord) ∧
    (plain.blocks.head? = some .bootstrap ∧ renamed.blocks.head? = some .bootstrap ∧
      renamed.blocks.length = plain.blocks.length ∧
      plain.blocks.length = (p.retained skip units).length + 1) ∧
    (∀ i u, (p.retained skip units)[i]? = some u → ∃ front back,
      (∀ path, .includeFile path ∉ front ++ back) ∧
      plain.blocks[i + 1]? = some ⟨some u.path, front ++ [.includeFile u.path] ++ back⟩ ∧
      renamed.blocks[i + 1]? = some ⟨some u.path,
        front ++ renameLines u.identifier (table.identifiersFor u.path) ++ [.includeFile u.path] ++
          undefineLines (table.identifiersFor u.path).reverse ++ back⟩ ∧
      plain.blocks[i + 1]?.map Block.texts = some (front.map Directive.text ++
        ["#include \"" ++ u.path ++ "\""] ++ back.map Directive.text) ∧
      renamed.blocks[i + 1]?.map Block.texts = some (front.map Directive.text ++
        (table.identifiersFor u.path).map (fun identifier =>
          "#define " ++ identifier ++ " " ++ Naming.qualify u.identifier identifier) ++
        ["#include \"" ++ u.path ++ "\""] ++
        (table.identifiersFor u.path).reverse.map (fun identifier => "#undef " ++ identifier) ++
        back.map Directive.text)) ∧
    (∀ file, (table.identifiersFor file).Pairwise (fun x y => Text.octets x < Text.octets y) ∧
      ∀ x, x ∈ table.identifiersFor file ↔
        (file, x) ∈ pairs ∧ Naming.isIdentifier x = true) ∧
    p.build units common skip (.ofList (pairs.filter fun pair =>
      (p.retained skip units).any fun u => u.path == pair.1)) = renamed := by
  intro table plain renamed
  refine ⟨⟨rfl, rfl, ?_, rfl, fun _ => rfl, fun _ => rfl, rfl⟩, ⟨rfl, rfl, ?_, ?_⟩, ?_, ?_, ?_⟩
  · rw [includedFiles_build, includedFiles_build]
  · simp only [renamed, plain, build, List.length_cons, List.length_map]
  · simp only [plain, build, List.length_cons, List.length_map]
  · intro i u hu
    have hnone : RenamingTable.empty.identifiersFor u.path = [] := rfl
    have hplain : plain.blocks[i + 1]? = some ⟨some u.path,
        (common.localDefines u).map .define ++ [.includeFile u.path] ++
          undefineLines ((common.localDefines u).map Define.macroName).reverse⟩ := by
      have hlines := Block.lines_ofUnit_identifiersFor u common .empty
      rw [hnone, List.reverse_nil] at hlines
      rw [p.getElem?_blocks_build units common skip .empty i u hu]
      simpa [Block.ofUnit, renameLines, undefineLines] using hlines
    have hrenamed := p.getElem?_blocks_build units common skip table i u hu
    refine ⟨(common.localDefines u).map .define,
      undefineLines ((common.localDefines u).map Define.macroName).reverse, ?_, hplain, ?_, ?_, ?_⟩
    · simp [undefineLines]
    · rw [hrenamed, ← Block.lines_ofUnit_identifiersFor]
      rfl
    · rw [hplain]
      simp only [Option.map_some, Block.texts, List.map_append, List.map_cons, List.map_nil,
        Directive.text]
    · rw [hrenamed, Option.map_some, Block.texts, Block.lines_ofUnit_identifiersFor]
      simp only [List.map_append, List.map_cons, List.map_nil, map_text_renameLines,
        map_text_undefineLines, Directive.text]
  · intro file
    refine ⟨RenamingTable.pairwise_octets_identifiersFor pairs file, ?_⟩
    intro x
    rw [RenamingTable.mem_identifiersFor, RenamingTable.mem_ofList]
  · exact p.build_filter_included units common skip pairs

/-- Clashes in two included files and in one that is not, in no order, with a repetition and a name
that is no identifier. -/
def samplePairs : List (String × String) :=
  [("y.c", "helper"), ("x.c", "b"), ("y.c", "_a"), ("z.c", "c"), ("y.c", "1x"), ("y.c", "helper")]

/-- The block of the second unit gains two lines on either side of its include. -/
theorem build_renamings_sharingUnits :
    (sample.retained .empty sharingUnits)[1]? = some sharingUnits[1] ∧
      ∃ front back,
        (sample.build sharingUnits (.hoist sharingUnits) .empty .empty).blocks[2]? =
          some ⟨some "y.c", front ++ [.includeFile "y.c"] ++ back⟩ ∧
        (sample.build sharingUnits (.hoist sharingUnits) .empty (.ofList samplePairs)).blocks[2]? =
          some ⟨some "y.c", front ++ renameLines "y_c" ["_a", "helper"] ++ [.includeFile "y.c"] ++
            undefineLines ["helper", "_a"] ++ back⟩ ∧
        (sample.build sharingUnits (.hoist sharingUnits) .empty (.ofList samplePairs)).blocks[2]?.map
            Block.texts = some (front.map Directive.text ++
              ["#define _a y_c___a", "#define helper y_c__helper"] ++ ["#include \"y.c\""] ++
              ["#undef helper", "#undef _a"] ++ back.map Directive.text) := by
  have hincluded : (sample.retained .empty sharingUnits)[1]? = some sharingUnits[1] := by decide
  have hidentifiers :
      (RenamingTable.ofList samplePairs).identifiersFor "y.c" = ["_a", "helper"] := by decide
  obtain ⟨-, -, hblocks, -, -⟩ :=
    build_renamings_eq sample sharingUnits (.hoist sharingUnits) .empty samplePairs
  obtain ⟨front, back, -, hplain, hrenamed, -, htexts⟩ := hblocks 1 sharingUnits[1] hincluded
  have hpath : sharingUnits[1].path = "y.c" := rfl
  have hname : sharingUnits[1].identifier = "y_c" := by decide
  rw [hpath, hname, hidentifiers] at hrenamed htexts
  exact ⟨hincluded, front, back, hplain, hrenamed, htexts⟩

end Plan

end UnityBuild.Unity
