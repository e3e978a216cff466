import UnityBuild.Proofs.Naming.Identifiers
import UnityBuild.Proofs.Unity.Renamings

/-!
# What included files rename to

Only identifiers are renamed, and each is put behind the name of its file. The name is made of the
path alone, and nothing looks at the new name: it keeps letters of all scripts and can start with a
digit, see `path_spoils_new_name`. For a path that starts with no digit the new name is an identifier
exactly when the path has no letters and digits but those of ASCII.

Main statement: `newNames_are_identifiers`.
-/

namespace UnityBuild.Unity

/-- For a path that starts with no digit, an identifier that is qualified by the name of the file is
an identifier exactly when the path has no letters and digits but those of ASCII. A line of a merged
source that renames stands in the block of a file and renames an identifier; so when the path of the
file starts with no digit, the new name is an identifier exactly when the path has no other letters
and digits. -/
theorem newNames_are_identifiers (p : Plan) (units : List SourceUnit) (common : CommonDefines)
    (skip : SkipSet) (pairs : List (String × String)) :
    (∀ path identifier, ¬ Naming.StartsWithDigit path → Naming.isIdentifier identifier = true →
      (Naming.isIdentifier (Naming.qualify (Naming.pathIdentifier path) identifier) = true ↔
        Naming.HasPlainWords path)) ∧
    ∀ block ∈ (p.build units common skip (.ofList pairs)).blocks, ∀ change,
      .rename change ∈ block.lines →
        ∃ path, block.path = some path ∧ Naming.isIdentifier change.identifier = true ∧
          (¬ Naming.StartsWithDigit path →
            (Naming.isIdentifier change.newName = true ↔ Naming.HasPlainWords path)) := by
  have hnames (path identifier : String) (hdigit : ¬ Naming.StartsWithDigit path)
      (hidentifier : Naming.isIdentifier identifier = true) :
      Naming.isIdentifier (Naming.qualify (Naming.pathIdentifier path) identifier) = true ↔
        Naming.HasPlainWords path := by
    rw [Naming.isIdentifier_qualify_pathIdentifier_iff path identifier hidentifier,
      and_iff_left hdigit]
  refine ⟨hnames, fun block hblock change hchange => ?_⟩
  rcases List.mem_cons.mp hblock with rfl | hunit
  · simp [Block.bootstrap] at hchange
  · obtain ⟨u, -, rfl⟩ := List.mem_map.mp hunit
    rw [Block.rename_mem_lines_ofUnit_iff, RenamingTable.mem_renamingsFor,
      RenamingTable.mem_ofList] at hchange
    obtain ⟨⟨-, hidentifier⟩, hname⟩ := hchange
    refine ⟨u.path, rfl, hidentifier, fun hdigit => ?_⟩
    rw [hname]
    exact hnames u.path change.identifier hdigit hidentifier

/-- Three units: the path of one has ASCII letters alone, one has another letter, and one starts with a
digit. -/
def spelledUnits : List SourceUnit :=
  [⟨⟨"/p/src/a-b.c"⟩, "src/a-b.c", [], [], []⟩, ⟨⟨"/p/é.c"⟩, "é.c", [], [], []⟩,
    ⟨⟨"/p/2d.c"⟩, "2d.c", [], [], []⟩]

/-- The merged source in which one name is renamed in each of the three files. -/
def spelledSource : Source :=
  Plan.sample.build spelledUnits (.hoist spelledUnits) .empty
    (.ofList [("src/a-b.c", "x"), ("é.c", "x"), ("2d.c", "x")])

/-- In the first file the new name is an identifier. -/
theorem newName_of_plain_path :
    Naming.HasPlainWords "src/a-b.c" ∧ ¬ Naming.StartsWithDigit "src/a-b.c" ∧
      ∃ block ∈ spelledSource.blocks, .rename ⟨"x", "src_a_b_c__x"⟩ ∈ block.lines ∧
        Naming.isIdentifier "src_a_b_c__x" = true := by
  have hplain : Naming.HasPlainWords "src/a-b.c" := by decide
  have hdigit : ¬ Naming.StartsWithDigit "src/a-b.c" := by decide
  have hblock : ∃ block ∈ spelledSource.blocks, block.path = some "src/a-b.c" ∧
      .rename ⟨"x", "src_a_b_c__x"⟩ ∈ block.lines := by decide +kernel
  obtain ⟨block, hmem, hpath, hchange⟩ := hblock
  obtain ⟨path, hpath', -, hiff⟩ := (newNames_are_identifiers Plan.sample spelledUnits
    (.hoist spelledUnits) .empty _).2 block hmem _ hchange
  obtain rfl : "src/a-b.c" = path := Option.some.inj (hpath.symm.trans hpath')
  exact ⟨hplain, hdigit, block, hmem, hchange, (hiff hdigit).mpr hplain⟩

/-- In the other two files the new name is no identifier: a letter that is not of ASCII stays in it,
and so does a digit at its start. -/
theorem path_spoils_new_name :
    Naming.isIdentifier "x" = true ∧
      (∃ block ∈ spelledSource.blocks, .rename ⟨"x", "é_c__x"⟩ ∈ block.lines) ∧
      (∃ block ∈ spelledSource.blocks, .rename ⟨"x", "2d_c__x"⟩ ∈ block.lines) ∧
      Naming.qualify (Naming.pathIdentifier "é.c") "x" = "é_c__x" ∧
      Naming.qualify (Naming.pathIdentifier "2d.c") "x" = "2d_c__x" ∧
      Naming.isIdentifier "é_c__x" = false ∧ Naming.isIdentifier "2d_c__x" = false := by
  decide +kernel

end UnityBuild.Unity
