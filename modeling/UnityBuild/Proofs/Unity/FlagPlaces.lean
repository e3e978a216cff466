import UnityBuild.Proofs.Command.Flags
import UnityBuild.Proofs.Unity.GlobalFlags
import UnityBuild.Proofs.Unity.Macros

/-!
# Where the flags of the units are given

The flags of the merged source come from four lists: the flags of the included units that define no
macro, the shared definitions, the flags of the tool itself and the directory of the project. Each flag
is given where it stands first, also when a unit has a flag of the tool. Only the second list holds
definitions, so a definition of a unit is given for all units when it is shared, and otherwise in the
block of the unit and nowhere else on the command line.

Main statement: `settings_are_given_once`.
-/

namespace UnityBuild.Unity

/-- A block defines the local definitions of its unit. -/
theorem Block.define_mem_lines_ofUnit_iff (u : SourceUnit) (common : CommonDefines)
    (table : RenamingTable) (d : Define) :
    Directive.define d ∈ (Block.ofUnit u common table).lines ↔ d ∈ common.localDefines u := by
  simp [Block.lines_ofUnit, Block.opening]

namespace Plan

/-- The flags of the merged source stand in the order in which the four lists name them first. -/
theorem inOrderOf_globalFlags (p : Plan) (included : List SourceUnit) (common : CommonDefines) :
    Lists.InOrderOf
      (otherFlags included ++ common.flags ++ portabilityFlags ++ ["-I" ++ p.root.display])
      (p.globalFlags included common) :=
  Lists.inOrderOf_eraseDups _

section Made

variable (p : Plan) (units included : List SourceUnit) (flag : String)

/-- A definition is a flag of the merged source exactly when it is shared. -/
theorem define_mem_globalFlags_iff (hmade : ∀ u ∈ units, u.IsMade) (hincluded : included ⊆ units)
    (hflag : Define.isDefineFlag flag = true) :
    flag ∈ p.globalFlags included (.hoist units) ↔ flag ∈ (CommonDefines.hoist units).flags := by
  rw [← p.filter_isDefineFlag_globalFlags units included hmade hincluded, List.mem_filter,
    and_iff_left hflag]

/-- Any other flag of the merged source is a flag of an included unit or of the tool. -/
theorem other_mem_globalFlags_iff (hmade : ∀ u ∈ units, u.IsMade)
    (hflag : Define.isDefineFlag flag = false) :
    flag ∈ p.globalFlags included (.hoist units) ↔ (∃ u ∈ included, flag ∈ u.others) ∨
      flag ∈ portabilityFlags ∨ flag = "-I" ++ p.root.display := by
  have hlocal : flag ∉ (CommonDefines.hoist units).flags := by
    intro hshared
    have hdefine := CommonDefines.isDefineFlag_of_mem_hoist units hmade flag hshared
    exact Bool.false_ne_true (hflag.symm.trans hdefine)
  simp only [globalFlags, List.mem_eraseDups, List.mem_append, List.mem_flatMap, List.mem_singleton,
    or_assoc, hlocal, false_or]

end Made

end Plan

/-- The flags of the merged source are given once each, in the order in which the flags of the included
units that define no macro, the shared definitions and the flags of the tool name them first. The
definitions among them are the shared ones, the others are those of the included units and of the tool.
Of the definitions of an included unit each is either among them or defined in the block of the unit. -/
theorem settings_are_given_once (p : Plan) (units : List SourceUnit) (skip : SkipSet)
    (table : RenamingTable) (hmade : ∀ u ∈ units, u.IsMade) :
    let source := p.build units (.hoist units) skip table
    let flags := source.globalFlags
    let shared := (CommonDefines.hoist units).flags
    let retained := p.retained skip units
    flags.Nodup ∧
      flags.filter (fun flag => "-D".toList.isPrefixOf flag.toList) = shared ∧
      (∀ flag, "-D".toList.isPrefixOf flag.toList = false →
        (flag ∈ flags ↔ (∃ u ∈ retained, flag ∈ u.others) ∨
          flag ∈ Plan.portabilityFlags ∨ flag = "-I" ++ p.root.display)) ∧
      Lists.InOrderOf
        (otherFlags retained ++ shared ++ Plan.portabilityFlags ++ ["-I" ++ p.root.display]) flags ∧
      ∀ u ∈ retained, Block.ofUnit u (.hoist units) table ∈ source.blocks ∧
        ∀ flag ∈ u.defineFlags, flag ∈ flags ↔
          ¬ ∃ d, .define d ∈ (Block.ofUnit u (.hoist units) table).lines ∧ d.flag = flag := by
  intro source flags shared retained
  have hsubset : retained ⊆ units := List.filter_subset_self _
  simp only [← Define.isDefineFlag_eq, Block.define_mem_lines_ofUnit_iff]
  refine ⟨p.nodup_globalFlags _ _, p.filter_isDefineFlag_globalFlags units retained hmade hsubset,
    fun flag hflag => p.other_mem_globalFlags_iff units retained flag hmade hflag,
    p.inOrderOf_globalFlags retained _, fun u hu => ⟨?_, fun flag hflag => ?_⟩⟩
  · -- The block of the platform comes first.
    exact List.mem_cons_of_mem _ (List.mem_map_of_mem hu)
  · have hdefine := u.isDefineFlag_of_mem_defineFlags (hmade u (hsubset hu)) flag hflag
    rw [CommonDefines.exists_localDefine_iff _ u flag hflag, not_not]
    exact p.define_mem_globalFlags_iff units retained flag hmade hsubset hdefine

/-- Two units that share one definition; each has a flag that the tool gives as well. -/
def overlappingUnits : List SourceUnit :=
  [⟨⟨"/p/x.c"⟩, "x.c", ["-I/p", "-DANS=1", "-DFOO=1", "-O2"],
      [⟨"ANS", some "1", "-DANS=1"⟩, ⟨"FOO", some "1", "-DFOO=1"⟩], ["-I/p", "-O2"]⟩,
    ⟨⟨"/p/y.c"⟩, "y.c", ["-O2", "-Wno-unknown-warning-option", "-DANS=1"],
      [⟨"ANS", some "1", "-DANS=1"⟩], ["-O2", "-Wno-unknown-warning-option"]⟩]

/-- The flags of the tool stand where the units give them, and the definition that is not shared stands
in the block of its unit. -/
theorem settings_are_given_once_overlappingUnits :
    (∀ u ∈ overlappingUnits, u.IsMade) ∧
      let source := Plan.sample.build overlappingUnits (.hoist overlappingUnits) .empty .empty
      source.globalFlags = ["-I/p", "-O2", "-Wno-unknown-warning-option", "-DANS=1"] ∧
        "-DFOO=1" ∈ overlappingUnits[0].defineFlags ∧
        ∃ d, .define d ∈
          (Block.ofUnit overlappingUnits[0] (.hoist overlappingUnits) .empty).lines ∧
            d.flag = "-DFOO=1" := by
  have hmade : ∀ u ∈ overlappingUnits, u.IsMade := by
    unfold SourceUnit.IsMade
    decide
  have hflags : (Plan.sample.build overlappingUnits (.hoist overlappingUnits) .empty .empty).globalFlags =
      ["-I/p", "-O2", "-Wno-unknown-warning-option", "-DANS=1"] := by decide +kernel
  have hfoo : "-DFOO=1" ∈ overlappingUnits[0].defineFlags := by decide
  obtain ⟨-, -, -, -, hplaces⟩ :=
    settings_are_given_once Plan.sample overlappingUnits .empty .empty hmade
  have hiff := (hplaces overlappingUnits[0] (by decide)).2 "-DFOO=1" hfoo
  rw [hflags] at hiff
  exact ⟨hmade, hflags, hfoo, not_not.mp (mt hiff.mpr (by decide))⟩

end UnityBuild.Unity
