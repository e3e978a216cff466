import UnityBuild.Proofs.CommonDefines

/-!
# What a longer skip list leaves out

Every unit has one of three fates, and only whether it is skipped depends on the skip list. With a
longer list the included units are those of the shorter list without the files that the longer one
names. So the blocks that stay are the same and in the same order, and no flag is new. The flags may
change places, since a flag is given where it stands first and its first unit can be left out, see
`growing_skipSet_reorders_flags`.

Main statement: `growing_skipSet_drops_blocks`.
-/

namespace UnityBuild.Unity

namespace Plan

section Fates

variable (p : Plan) (skip : SkipSet) (u : SourceUnit)

/-- A unit is a test when it is compiled with the marker, whatever the skip list says. -/
theorem fate_eq_testVariant_iff :
    p.fate skip u = .testVariant ↔ u.definesMacro p.testMarker = true := by
  unfold fate
  split_ifs with hmarker hlisted <;> simp [hmarker]

/-- A unit is included when it is no test and the skip list does not name it. -/
theorem fate_eq_retained_iff :
    p.fate skip u = .retained ↔
      u.definesMacro p.testMarker = false ∧ skip.contains u.path = false := by
  unfold fate
  split_ifs with hmarker hlisted <;> simp [*]

/-- Every unit is counted once. -/
theorem total_tally (units : List SourceUnit) :
    (p.tally skip units).retained + (p.tally skip units).skipped +
      (p.tally skip units).testVariants = units.length := by
  induction units with
  | nil => rfl
  | cons u units ih =>
    simp only [tally] at ih ⊢
    simp only [List.countP_cons, List.length_cons]
    cases p.fate skip u <;> simp <;> omega

/-- As many units are counted as included as there are blocks behind the first one. -/
theorem length_blocks_build (units : List SourceUnit) (common : CommonDefines)
    (table : RenamingTable) :
    (p.build units common skip table).blocks.length =
      (p.build units common skip table).tally.retained + 1 := by
  rw [build, List.length_cons, List.length_map, retained, ← List.countP_eq_length_filter]
  rfl

end Fates

section Growth

variable (p : Plan) (units : List SourceUnit) (common : CommonDefines) (skip more : SkipSet)
variable (hgrown : skip.entries ⊆ more.entries)

include hgrown in
/-- A longer list leaves those of the included units that it does not name. -/
theorem retained_of_subset :
    p.retained more units = (p.retained skip units).filter fun u => !more.contains u.path := by
  have hlisted (path : String) (h : skip.contains path = true) : more.contains path = true :=
    List.contains_iff_mem.mpr (hgrown (List.contains_iff_mem.mp h))
  rw [retained, retained, List.filter_filter]
  refine List.filter_congr fun u _ => ?_
  rw [Bool.eq_iff_iff, Bool.and_eq_true, decide_eq_true_iff, decide_eq_true_iff,
    fate_eq_retained_iff, fate_eq_retained_iff, Bool.not_eq_true']
  constructor
  · rintro ⟨hmarker, hfree⟩
    exact ⟨hfree, hmarker, Bool.eq_false_iff.mpr fun h => Bool.false_ne_true (hfree ▸ hlisted _ h)⟩
  · rintro ⟨hfree, hmarker, -⟩
    exact ⟨hmarker, hfree⟩

include hgrown in
/-- A longer list leaves the blocks of those files that it does not name, as they are. -/
theorem blocks_build_of_subset (table : RenamingTable) :
    (p.build units common more table).blocks =
      (p.build units common skip table).blocks.filter fun b => !b.path.any more.contains := by
  rw [build, build, p.retained_of_subset units skip more hgrown, List.filter_cons_of_pos rfl,
    List.filter_map]
  rfl

/-- Fewer included units give no flag that the others did not give. -/
theorem globalFlags_subset (included fewer : List SourceUnit) (hfewer : fewer ⊆ included) :
    p.globalFlags fewer common ⊆ p.globalFlags included common := by
  intro flag hflag
  simp only [globalFlags, List.mem_eraseDups, List.mem_append, List.mem_flatMap] at hflag ⊢
  refine hflag.imp_left (Or.imp_left (Or.imp_left ?_))
  rintro ⟨u, hu, hmem⟩
  exact ⟨u, hfewer hu, hmem⟩

end Growth

end Plan

/-- A longer skip list takes away the blocks of the files that it names and leaves the others as they
are, in their order. It adds no flag, and the same units count as tests. Under each of the two lists
every unit is counted once, and there is one block for each included unit behind the first block. -/
theorem growing_skipSet_drops_blocks (p : Plan) (units : List SourceUnit) (common : CommonDefines)
    (table : RenamingTable) (skip more : SkipSet) (hgrown : skip.entries ⊆ more.entries) :
    let before := p.build units common skip table
    let after := p.build units common more table
    after.blocks = before.blocks.filter (fun b => !b.path.any more.contains) ∧
      after.globalFlags ⊆ before.globalFlags ∧
      after.tally.testVariants = before.tally.testVariants ∧
      ∀ source ∈ [before, after],
        source.tally.retained + source.tally.skipped + source.tally.testVariants = units.length ∧
          source.blocks.length = source.tally.retained + 1 := by
  intro before after
  have hfewer : p.retained more units ⊆ p.retained skip units := by
    rw [p.retained_of_subset units skip more hgrown]
    exact List.filter_subset_self _
  refine ⟨p.blocks_build_of_subset units common skip more hgrown table,
    p.globalFlags_subset common _ _ hfewer, ?_, ?_⟩
  · refine List.countP_congr fun u _ => ?_
    simp only [decide_eq_true_iff, Plan.fate_eq_testVariant_iff]
  · simp only [List.forall_mem_cons, List.not_mem_nil, false_implies, implies_true, and_true]
    exact ⟨⟨p.total_tally skip units, p.length_blocks_build skip units common table⟩,
      p.total_tally more units, p.length_blocks_build more units common table⟩

/-- Two units with the same flags in opposite orders, and a test with a flag of its own. -/
def opposedUnits : List SourceUnit :=
  [⟨⟨"/p/x.c"⟩, "x.c", ["-O2", "-g"], [], ["-O2", "-g"]⟩,
    ⟨⟨"/p/x_test.c"⟩, "x_test.c", ["-DUNIT_TEST", "-O0"], [⟨"UNIT_TEST", none, "-DUNIT_TEST"⟩],
      ["-O0"]⟩,
    ⟨⟨"/p/y.c"⟩, "y.c", ["-g", "-O2"], [], ["-g", "-O2"]⟩]

/-- A list that names the first unit and the test takes away the block of the first unit and turns the
order of the flags round. -/
theorem growing_skipSet_reorders_flags :
    let more := SkipSet.ofList ["x_test.c", "x.c"]
    let before := Plan.sample.build opposedUnits (.hoist opposedUnits) .empty .empty
    let after := Plan.sample.build opposedUnits (.hoist opposedUnits) more .empty
    SkipSet.empty.entries ⊆ more.entries ∧
      before.includedFiles = ["x.c", "y.c"] ∧ after.includedFiles = ["y.c"] ∧
      after.blocks = before.blocks.filter (fun b => !b.path.any more.contains) ∧
      before.globalFlags = ["-O2", "-g", "-Wno-unknown-warning-option", "-I/p"] ∧
      after.globalFlags = ["-g", "-O2", "-Wno-unknown-warning-option", "-I/p"] ∧
      after.globalFlags ⊆ before.globalFlags ∧
      before.tally = ⟨2, 0, 1⟩ ∧ after.tally = ⟨1, 1, 1⟩ := by
  intro more before after
  have hgrown : SkipSet.empty.entries ⊆ more.entries := List.nil_subset _
  obtain ⟨hblocks, hflags, -, -⟩ := growing_skipSet_drops_blocks Plan.sample opposedUnits
    (.hoist opposedUnits) .empty .empty more hgrown
  exact ⟨hgrown, by decide +kernel, by decide +kernel, hblocks, by decide +kernel,
    by decide +kernel, hflags, by decide +kernel, by decide +kernel⟩

end UnityBuild.Unity
