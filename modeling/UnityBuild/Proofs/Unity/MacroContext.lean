import UnityBuild.Proofs.CommonDefines
import UnityBuild.Proofs.Unity.Macros

/-!
# What an included file sees of its own definitions

A unit that is compiled on its own sees its definitions in their order. In the merged source the
shared definitions come from the command line, the first block sets and frees the platform macro,
and every block frees the names that it set. A unit sees its own macros again unless one of these
steps takes a shared definition away or puts another one in its place.

Main statement: `contexts_eq_ownMacros_iff`, which gives the exact condition. It fails for a shared
definition of the platform macro, see `shared_platform_macro_is_lost`.
-/

namespace UnityBuild.Unity

/-- The definitions that are shared, in their order. -/
def sharedDefines (common : CommonDefines) : List Define :=
  Macros.definesOf common.flags

/-- The conditions under which a shared definition is in force at the include of a unit, behind the
blocks of the units before it. Either the unit has further definitions of the name, and the last of
them says the same; or it has none, the name is not the platform macro, no block before sets and
frees the name, and the last shared definition of the name says the same. -/
def SharedInForce (common : CommonDefines) (before : List SourceUnit) (u : SourceUnit)
    (d : Define) : Prop :=
  (lastNamed? d.macroName (common.localDefines u)).map Define.defineDirective =
      some d.defineDirective ∨
    (lastNamed? d.macroName (common.localDefines u) = none ∧
      d.macroName ≠ Block.platformMacro.macroName ∧
      (∀ v ∈ before, ∀ e ∈ common.localDefines v, e.macroName ≠ d.macroName) ∧
      (lastNamed? d.macroName (sharedDefines common)).map Define.defineDirective =
        some d.defineDirective)

instance (common : CommonDefines) (before : List SourceUnit) (u : SourceUnit) (d : Define) :
    Decidable (SharedInForce common before u d) :=
  inferInstanceAs (Decidable (_ ∨ _))

namespace Macros

/-- The other flags of a command line bring no definition. -/
theorem definesOf_filter_isDefineFlag (flags : List String) :
    definesOf (flags.filter Define.isDefineFlag) = definesOf flags := by
  induction flags with
  | nil => rfl
  | cons flag flags ih =>
    cases hflag : Define.isDefineFlag flag with
    | true =>
      rw [List.filter_cons_of_pos hflag]
      simp only [definesOf, List.filterMap_cons] at ih ⊢
      rw [ih]
    | false =>
      have hparse : (Define.parse flag).toOption = none := by
        cases hd : Define.parse flag with
        | error e => rfl
        | ok d => rw [Define.isDefineFlag_of_parse flag d hd] at hflag; cases hflag
      rw [List.filter_cons_of_neg (by simp [hflag]), ih]
      simp [definesOf, hparse]

/-- The first block frees the platform macro and leaves all other names as they were. -/
theorem run_bootstrap_apply (m : Macros) (name : String) :
    m.run Block.bootstrap.lines name =
      if name = Block.platformMacro.macroName then none else m name := by
  have hrun : m.run Block.bootstrap.lines =
      (m.define Block.platformMacro).step (.undefine Block.platformMacro.macroName) := rfl
  rw [hrun]
  by_cases hname : name = Block.platformMacro.macroName
  · simp [step, hname]
  · simp [step, define, hname]

end Macros

/-- Without renamings a block sets the names of the unit's own definitions. -/
theorem Block.names_empty (u : SourceUnit) (common : CommonDefines) :
    Block.names u common .empty = (common.localDefines u).map Define.macroName := by
  simp [Block.names, RenamingTable.renamingsFor, RenamingTable.identifiersFor, RenamingTable.empty]

/-- The macros in force at the include of a unit: the last definition in front of it, and failing
that the last shared one, unless the first block or a block before has freed the name. -/
theorem run_before_opening_apply (common : CommonDefines) (before : List SourceUnit)
    (u : SourceUnit) (name : String) :
    (((Macros.ofDefines (sharedDefines common)).run Block.bootstrap.lines).run
        (blockLines common .empty before)).run
          (Block.opening (common.localDefines u) []) name =
      ((lastNamed? name (common.localDefines u)).map Define.defineDirective).or
        (if (∃ v ∈ before, name ∈ (common.localDefines v).map Define.macroName) ∨
            name = Block.platformMacro.macroName then none
          else (lastNamed? name (sharedDefines common)).map Define.defineDirective) := by
  have hopening (m : Macros) :
      m.run (Block.opening (common.localDefines u) []) =
        (common.localDefines u).foldl Macros.define m := by
    simp [Macros.run, Block.opening, List.foldl_map, Macros.step]
  rw [hopening, Macros.foldl_define_apply, Macros.run_blockLines_apply, Macros.run_bootstrap_apply,
    Macros.ofDefines_apply]
  simp only [Block.names_empty]
  by_cases hbefore : ∃ v ∈ before, name ∈ (common.localDefines v).map Define.macroName
  · simp only [hbefore, if_true, true_or]
  · simp only [hbefore, if_false, false_or]

/-- A unit's shared definitions are among its definitions. -/
theorem sharedDefines_subset (units : List SourceUnit) (hmade : ∀ u ∈ units, u.IsMade)
    (u : SourceUnit) (hu : u ∈ units) : sharedDefines (.hoist units) ⊆ u.defines := by
  intro d hd
  obtain ⟨flag, hflag, hparse⟩ := List.mem_filterMap.mp hd
  obtain ⟨e, he, hflag_e⟩ := CommonDefines.exists_define_of_mem_hoist units hmade flag hflag u hu
  rw [hflag_e] at hparse
  cases hparse
  exact he

/-- At the include the name of a definition means what the definition says exactly when the
conditions for a shared definition hold. -/
theorem inForce_eq_some_iff (common : CommonDefines) (before : List SourceUnit) (u : SourceUnit)
    (d : Define) :
    ((lastNamed? d.macroName (common.localDefines u)).map Define.defineDirective).or
        (if (∃ v ∈ before, d.macroName ∈ (common.localDefines v).map Define.macroName) ∨
            d.macroName = Block.platformMacro.macroName then none
          else (lastNamed? d.macroName (sharedDefines common)).map Define.defineDirective) =
        some d.defineDirective ↔ SharedInForce common before u d := by
  have hfree : (¬ ∃ v ∈ before, d.macroName ∈ (common.localDefines v).map Define.macroName) ↔
      ∀ v ∈ before, ∀ e ∈ common.localDefines v, e.macroName ≠ d.macroName := by
    simp only [List.mem_map, not_exists, not_and, ne_eq]
  rw [SharedInForce, ← hfree]
  cases hlocal : lastNamed? d.macroName (common.localDefines u) with
  | some own => simp
  | none =>
    by_cases hplatform : d.macroName = Block.platformMacro.macroName
    · simp [hplatform]
    · by_cases hbefore : ∃ v ∈ before, d.macroName ∈ (common.localDefines v).map Define.macroName
      · simp only [hbefore, true_or, if_true, Option.map_none, Option.none_or, reduceCtorEq,
          not_true, false_and, and_false, or_self]
      · simp only [hbefore, hplatform, or_self, if_false, Option.map_none, Option.none_or,
          reduceCtorEq, false_or, true_and, ne_eq, not_false_eq_true]

/-- For one name, the macros in force at the include agree with the unit's own exactly when the
unit's last definition of the name is its own or in force. -/
theorem inForce_eq_own_iff (units before : List SourceUnit) (hmade : ∀ u ∈ units, u.IsMade)
    (u : SourceUnit) (hu : u ∈ units) (name : String) :
    ((lastNamed? name ((CommonDefines.hoist units).localDefines u)).map Define.defineDirective).or
        (if (∃ v ∈ before,
              name ∈ ((CommonDefines.hoist units).localDefines v).map Define.macroName) ∨
            name = Block.platformMacro.macroName then none
          else (lastNamed? name (sharedDefines (.hoist units))).map Define.defineDirective) =
        (lastNamed? name u.defines).map Define.defineDirective ↔
      ∀ d, lastNamed? name u.defines = some d → d.flag ∈ (CommonDefines.hoist units).flags →
        SharedInForce (.hoist units) before u d := by
  generalize hcommon : CommonDefines.hoist units = common
  have hshared : sharedDefines common ⊆ u.defines := hcommon ▸ sharedDefines_subset units hmade u hu
  cases hlast : lastNamed? name u.defines with
  | none =>
    have hnone := (lastNamed?_eq_none_iff name u.defines).mp hlast
    have hlocal : lastNamed? name (common.localDefines u) = none :=
      (lastNamed?_eq_none_iff _ _).mpr fun d hd => hnone d (List.mem_filter.mp hd).1
    have hcommand : lastNamed? name (sharedDefines common) = none :=
      (lastNamed?_eq_none_iff _ _).mpr fun d hd => hnone d (hshared hd)
    simp [hlocal, hcommand]
  | some d =>
    obtain ⟨-, rfl⟩ := mem_of_lastNamed? name u.defines d hlast
    simp only [Option.some.injEq, forall_eq', Option.map_some]
    by_cases hflag : d.flag ∈ common.flags
    · rw [inForce_eq_some_iff]
      simp only [hflag, forall_const]
    · have hkeep : (!common.contains d.flag) = true := by simpa [CommonDefines.contains] using hflag
      have hlocal : lastNamed? d.macroName (common.localDefines u) = some d :=
        lastNamed?_filter_of_keep d.macroName u.defines (fun d => !common.contains d.flag) d hlast hkeep
      simp [hlocal, hflag]

/-- An included file sees the macros that its unit is compiled with on its own exactly when every
shared definition that is the unit's last of its name is in force. All other definitions are always
in force. -/
theorem contexts_eq_ownMacros_iff (p : Plan) (units : List SourceUnit) (skip : SkipSet)
    (hmade : ∀ u ∈ units, u.IsMade) (before after : List SourceUnit) (u : SourceUnit)
    (hretained : p.retained skip units = before ++ u :: after) :
    (p.build units (.hoist units) skip .empty).contexts[before.length]? =
        some (u.path, ownMacros u) ↔
      ∀ d ∈ u.defines, lastNamed? d.macroName u.defines = some d →
        d.flag ∈ (CommonDefines.hoist units).flags → SharedInForce (.hoist units) before u d := by
  have hsubset : p.retained skip units ⊆ units := List.filter_subset_self _
  have hu : u ∈ units := hsubset (hretained ▸ List.mem_append_right _ List.mem_cons_self)
  have hflags : Macros.ofFlags (p.globalFlags (p.retained skip units) (.hoist units)) =
      Macros.ofDefines (sharedDefines (.hoist units)) := by
    rw [Macros.ofFlags, ← Macros.definesOf_filter_isDefineFlag,
      p.filter_isDefineFlag_globalFlags units _ hmade hsubset]
    rfl
  have hlines : (p.build units (.hoist units) skip .empty).blocks.flatMap Block.lines =
      Block.bootstrap.lines ++ blockLines (.hoist units) .empty (before ++ u :: after) := by
    simp [Plan.build, blockLines, hretained, List.flatMap_map]
  have hbootstrap (m : Macros) : m.contexts Block.bootstrap.lines = [] := rfl
  have hrenamings : (RenamingTable.empty).renamingsFor u.path u.identifier = [] := rfl
  have hcontexts : (p.build units (.hoist units) skip .empty).contexts =
      ((Macros.ofDefines (sharedDefines (.hoist units))).run Block.bootstrap.lines).contexts
        (blockLines (.hoist units) .empty (before ++ u :: after)) := by
    rw [Source.contexts, hlines, Macros.contexts_append, hbootstrap, List.nil_append]
    exact congrArg (fun m : Macros => (m.run Block.bootstrap.lines).contexts _) hflags
  rw [hcontexts, Macros.contexts_blockLines_getElem?, hrenamings]
  simp only [Option.some.injEq, Prod.mk.injEq, true_and]
  rw [funext_iff]
  simp only [run_before_opening_apply, ownMacros, Macros.ofDefines_apply,
    inForce_eq_own_iff units before hmade u hu]
  constructor
  · intro h d _ hlast hflag
    exact h d.macroName d hlast hflag
  · intro h name d hlast hflag
    obtain ⟨hd, rfl⟩ := mem_of_lastNamed? name u.defines d hlast
    exact h d hd hlast hflag

/-- Two units that share one definition and have one of their own each. -/
def sharingUnits : List SourceUnit :=
  [⟨⟨"/p/x.c"⟩, "x.c", ["-DANS=1", "-DFOO=1"],
      [⟨"ANS", some "1", "-DANS=1"⟩, ⟨"FOO", some "1", "-DFOO=1"⟩], []⟩,
    ⟨⟨"/p/y.c"⟩, "y.c", ["-DANS=1", "-DFOO=2"],
      [⟨"ANS", some "1", "-DANS=1"⟩, ⟨"FOO", some "2", "-DFOO=2"⟩], []⟩]

/-- Behind a block that sets and frees a name of its own, the next unit still sees its macros. -/
theorem contexts_sharingUnits :
    (∀ u ∈ sharingUnits, u.IsMade) ∧
      (Plan.sample.build sharingUnits (.hoist sharingUnits) .empty .empty).contexts[1]? =
        some ("y.c", ownMacros sharingUnits[1]) := by
  have hmade : ∀ u ∈ sharingUnits, u.IsMade := by
    unfold SourceUnit.IsMade
    decide
  exact ⟨hmade, (contexts_eq_ownMacros_iff Plan.sample sharingUnits .empty hmade [sharingUnits[0]] []
    sharingUnits[1] (by decide)).mpr (by decide)⟩

/-- A unit that is compiled with the platform macro. -/
def platformUnit : SourceUnit :=
  ⟨⟨"/p/x.c"⟩, "x.c", ["-D_GNU_SOURCE"], [⟨"_GNU_SOURCE", none, "-D_GNU_SOURCE"⟩], []⟩

/-- When all units are compiled with the platform macro, the first block takes it away from them. -/
theorem shared_platform_macro_is_lost :
    platformUnit.IsMade ∧ Plan.sample.retained .empty [platformUnit] = [platformUnit] ∧
      (Plan.sample.build [platformUnit] (.hoist [platformUnit]) .empty .empty).contexts.map
        (fun context => (context.1, context.2 "_GNU_SOURCE")) = [("x.c", none)] ∧
      ownMacros platformUnit "_GNU_SOURCE" = some "#define _GNU_SOURCE 1" := by
  unfold SourceUnit.IsMade
  decide

end UnityBuild.Unity
