import UnityBuild.Proofs.Naming
import UnityBuild.Proofs.Unity.Renamings

/-!
# When two included files are renamed to one name

A renaming keeps an identifier apart from those of other files only as far as the names of the
files do. Whether some table makes the blocks of two units rename to one name depends on the names
of the two files alone: it is possible exactly when they overlap. A slash and an underscore give
one name to two files, see `slash_and_underscore_share_alias`.

Main statement: `exists_shared_alias_iff`.
-/

namespace UnityBuild.Unity

/-- Two files share an alias when blocks that include them rename identifiers to one name. -/
def Source.ShareAlias (s : Source) (a b : String) : Prop :=
  ∃ one ∈ s.blocks, ∃ other ∈ s.blocks, one.path = some a ∧ other.path = some b ∧
    ∃ change change' : Renaming, one.Renames change ∧ other.Renames change' ∧
      change.newName = change'.newName

/-- The block of an included unit renames what the table pairs with the unit. -/
theorem exists_block_renames (p : Plan) (units : List SourceUnit) (common : CommonDefines)
    (skip : SkipSet) (table : RenamingTable) (u : SourceUnit) (hu : u ∈ p.retained skip units)
    (identifier : String) (hpair : (u.path, identifier) ∈ table.pairs) :
    ∃ block ∈ (p.build units common skip table).blocks, block.path = some u.path ∧
      block.Renames ⟨identifier, Naming.qualify u.identifier identifier⟩ := by
  refine ⟨.ofUnit u common table, ?_, rfl, ?_⟩
  · exact List.mem_cons_of_mem _ (List.mem_map_of_mem hu)
  · rw [Block.renames_ofUnit_iff, RenamingTable.mem_renamingsFor]
    exact ⟨hpair, rfl⟩

/-- Every block that includes a file renames to the qualified names of the file alone. -/
theorem newName_of_block_renames (p : Plan) (units : List SourceUnit) (common : CommonDefines)
    (skip : SkipSet) (table : RenamingTable) (path : String) (block : Block)
    (hblock : block ∈ (p.build units common skip table).blocks) (hpath : block.path = some path)
    (change : Renaming) (hchange : block.Renames change) :
    (path, change.identifier) ∈ table.pairs ∧
      change.newName = Naming.qualify (Naming.pathIdentifier path) change.identifier := by
  rcases List.mem_cons.mp hblock with rfl | hunit
  · cases hpath
  · obtain ⟨v, -, rfl⟩ := List.mem_map.mp hunit
    obtain rfl : v.path = path := Option.some.inj hpath
    rw [Block.renames_ofUnit_iff, RenamingTable.mem_renamingsFor] at hchange
    exact hchange

/-- Identifiers of two included units can get one qualified name, and some table makes their blocks
rename to one name, exactly when the names of their files overlap. -/
theorem exists_shared_alias_iff (p : Plan) (units : List SourceUnit) (common : CommonDefines)
    (skip : SkipSet) (u v : SourceUnit) (hu : u ∈ p.retained skip units)
    (hv : v ∈ p.retained skip units) :
    ((∃ x y, Naming.isIdentifier x = true ∧ Naming.isIdentifier y = true ∧
        Naming.qualify u.identifier x = Naming.qualify v.identifier y) ↔
      Naming.Overlap u.identifier v.identifier) ∧
    ((∃ pairs, (p.build units common skip (.ofList pairs)).ShareAlias u.path v.path) ↔
      Naming.Overlap u.identifier v.identifier) := by
  have hnames := Naming.exists_qualify_eq_iff u.identifier v.identifier
  refine ⟨hnames, ?_⟩
  rw [← hnames]
  constructor
  · rintro ⟨pairs, one, hone, other, hother, hu, hv, change, change', hchange, hchange', hsame⟩
    obtain ⟨hpair, hname⟩ := newName_of_block_renames p units common skip _ _ one hone hu change hchange
    obtain ⟨hpair', hname'⟩ :=
      newName_of_block_renames p units common skip _ _ other hother hv change' hchange'
    rw [hname, hname'] at hsame
    exact ⟨change.identifier, change'.identifier, ((RenamingTable.mem_ofList pairs _).mp hpair).2,
      ((RenamingTable.mem_ofList pairs _).mp hpair').2, hsame⟩
  · rintro ⟨x, y, hx, hy, hsame⟩
    have hmem (pair : String × String) (hpair : pair ∈ [(u.path, x), (v.path, y)])
        (hidentifier : Naming.isIdentifier pair.2 = true) :
        pair ∈ (RenamingTable.ofList [(u.path, x), (v.path, y)]).pairs :=
      (RenamingTable.mem_ofList _ pair).mpr ⟨hpair, hidentifier⟩
    obtain ⟨one, hone, hpath, hchange⟩ := exists_block_renames p units common skip _ u hu x
      (hmem (u.path, x) (by simp) hx)
    obtain ⟨other, hother, hpath', hchange'⟩ := exists_block_renames p units common skip _ v hv y
      (hmem (v.path, y) (by simp) hy)
    exact ⟨_, one, hone, other, hother, hpath, hpath', _, _, hchange, hchange', hsame⟩

/-- Three units, two of which differ by a slash and an underscore. -/
def slashUnits : List SourceUnit :=
  [⟨⟨"/p/a/b.c"⟩, "a/b.c", [], [], []⟩, ⟨⟨"/p/a_b.c"⟩, "a_b.c", [], [], []⟩,
    ⟨⟨"/p/a.c"⟩, "a.c", [], [], []⟩]

/-- Names of which neither goes on from the other are kept apart by every table. -/
theorem apart_units_share_no_alias :
    slashUnits[0] ∈ Plan.sample.retained .empty slashUnits ∧
      slashUnits[2] ∈ Plan.sample.retained .empty slashUnits ∧
      ¬ ∃ pairs, (Plan.sample.build slashUnits (.hoist slashUnits) .empty
        (.ofList pairs)).ShareAlias "a/b.c" "a.c" := by
  have hfirst : slashUnits[0] ∈ Plan.sample.retained .empty slashUnits := by decide
  have hthird : slashUnits[2] ∈ Plan.sample.retained .empty slashUnits := by decide
  refine ⟨hfirst, hthird, fun hshare => ?_⟩
  have hoverlap := (exists_shared_alias_iff Plan.sample slashUnits (.hoist slashUnits) .empty
    slashUnits[0] slashUnits[2] hfirst hthird).2.mp hshare
  exact absurd hoverlap (by decide)

/-- Two normal spellings that differ by a slash and an underscore give one alias to a name that is
renamed in both files. -/
theorem slash_and_underscore_share_alias :
    Path.normalize ⟨"a/b.c"⟩ = ⟨"a/b.c"⟩ ∧ Path.normalize ⟨"a_b.c"⟩ = ⟨"a_b.c"⟩ ∧
      Naming.isIdentifier "x" = true ∧
      Naming.qualify (Naming.pathIdentifier "a/b.c") "x" =
        Naming.qualify (Naming.pathIdentifier "a_b.c") "x" ∧
      (Plan.sample.build slashUnits (.hoist slashUnits) .empty
        (.ofList [("a/b.c", "x"), ("a_b.c", "x")])).ShareAlias "a/b.c" "a_b.c" := by
  obtain ⟨one, hone, hpath, hchange⟩ := exists_block_renames Plan.sample slashUnits
    (.hoist slashUnits) .empty (.ofList [("a/b.c", "x"), ("a_b.c", "x")]) slashUnits[0] (by decide)
    "x" (by decide)
  obtain ⟨other, hother, hpath', hchange'⟩ := exists_block_renames Plan.sample slashUnits
    (.hoist slashUnits) .empty (.ofList [("a/b.c", "x"), ("a_b.c", "x")]) slashUnits[1] (by decide)
    "x" (by decide)
  refine ⟨by decide, by decide, by decide, by decide, ?_⟩
  exact ⟨one, hone, other, hother, hpath, hpath', _, _, hchange, hchange', by decide⟩

end UnityBuild.Unity
