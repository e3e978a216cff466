import UnityBuild.Proofs.Unity.Stages

/-!
# No block leaks macros

A block sets names in front of its include and frees all of them behind it, so whatever macros are
in force in front of a block, those that it does not name are in force behind it and no others. Over
a whole merged source, a name that some block has set is in force at the start of no later block,
and a name that no block has touched means what the command line says.

Main statement: `blocks_leak_no_macro`.
-/

namespace UnityBuild.Unity

/-- The name that a line sets. -/
def Directive.sets? : Directive → Option String
  | .define d => some d.macroName
  | .rename change => some change.identifier
  | .includeHeader _ => none
  | .includeFile _ => none
  | .undefine _ => none

/-- The name that a line sets or frees. -/
def Directive.names? : Directive → Option String
  | .undefine name => some name
  | line => line.sets?

/-- The names that the lines of a block set. -/
def Block.setNames (b : Block) : List String :=
  b.lines.filterMap Directive.sets?

/-- The macros in force at the include of a unit when `m` is in force in front of its block: the
unit's renamings, under them its own definitions, the last of each name, and under these `m`. -/
def Block.macrosInside (u : SourceUnit) (common : CommonDefines) (table : RenamingTable)
    (m : Macros) : Macros := fun name =>
  if name ∈ table.identifiersFor u.path then
    some (Directive.rename ⟨name, Naming.qualify u.identifier name⟩).text
  else ((lastNamed? name (common.localDefines u)).map Define.defineDirective).or (m name)

/-- The macros in force in front of the block with a number, the first block being number zero. -/
def Source.macrosBefore (s : Source) (number : Nat) : Macros :=
  (Macros.ofFlags s.globalFlags).run ((s.blocks.take number).flatMap Block.lines)

/-- A line that sets a name touches it. -/
theorem Directive.names?_of_sets? (line : Directive) (name : String) (h : line.sets? = some name) :
    line.names? = some name := by
  cases line with
  | undefine other => cases h
  | define d => exact h
  | rename change => exact h
  | includeHeader header => cases h
  | includeFile path => cases h

namespace Macros

/-- Lines that rename identifiers put them in force under their new names. -/
theorem run_renameLines_apply (m : Macros) (fileName : String) (identifiers : List String)
    (name : String) :
    m.run (renameLines fileName identifiers) name =
      if name ∈ identifiers then
        some (Directive.rename ⟨name, Naming.qualify fileName name⟩).text
      else m name := by
  induction identifiers generalizing m with
  | nil => rfl
  | cons first identifiers ih =>
    have hstep : m.run (renameLines fileName (first :: identifiers)) =
        (m.step (.rename ⟨first, Naming.qualify fileName first⟩)).run
          (renameLines fileName identifiers) := rfl
    rw [hstep, ih]
    by_cases hfirst : name = first
    · subst hfirst
      simp [step]
    · simp [step, hfirst]

/-- At the include of a unit its renamings are in force, and under them its own definitions. -/
theorem contexts_ofUnit (m : Macros) (u : SourceUnit) (common : CommonDefines)
    (table : RenamingTable) :
    m.contexts (Block.ofUnit u common table).lines =
      [(u.path, Block.macrosInside u common table m)] := by
  have hdefines : m.run ((common.localDefines u).map .define) =
      (common.localDefines u).foldl define m := by
    rw [run, List.foldl_map]
    rfl
  rw [contexts_block, Block.opening, map_rename_renamingsFor, run_append, hdefines]
  refine congrArg (fun inside => [(u.path, inside)]) ?_
  funext name
  rw [run_renameLines_apply, foldl_define_apply, Block.macrosInside]

end Macros

/-- The names of a unit's block are those of its own definitions and its renamed identifiers. -/
theorem Block.mem_names_iff (u : SourceUnit) (common : CommonDefines) (table : RenamingTable)
    (name : String) :
    name ∈ Block.names u common table ↔
      name ∈ (common.localDefines u).map Define.macroName ∨ name ∈ table.identifiersFor u.path := by
  rw [Block.names, map_identifier_renamingsFor, List.mem_append]

/-- A block is closed when it frees the names that it sets and leaves all others as they were. -/
def Block.IsClosed (b : Block) : Prop :=
  ∀ (m : Macros) (name : String), m.run b.lines name = if name ∈ b.setNames then none else m name

/-- The first block is closed. -/
theorem Block.isClosed_bootstrap : Block.bootstrap.IsClosed := by
  intro m name
  have hnames : Block.bootstrap.setNames = [Block.platformMacro.macroName] := rfl
  rw [Macros.run_bootstrap_apply, hnames]
  simp only [List.mem_singleton]

/-- The block of a unit sets the names of the unit's own definitions and its renamed identifiers. -/
theorem Block.setNames_ofUnit (u : SourceUnit) (common : CommonDefines) (table : RenamingTable) :
    (Block.ofUnit u common table).setNames = Block.names u common table := by
  have hdefines (defines : List Define) :
      (defines.map Directive.define).filterMap Directive.sets? = defines.map Define.macroName := by
    rw [List.filterMap_map]
    exact congrFun List.filterMap_eq_map _
  have hrenamings (changes : List Renaming) :
      (changes.map Directive.rename).filterMap Directive.sets? =
        changes.map Renaming.identifier := by
    rw [List.filterMap_map]
    exact congrFun List.filterMap_eq_map _
  have hfreed (names : List String) :
      (names.map Directive.undefine).filterMap Directive.sets? = [] := by
    simp [List.filterMap_map, Directive.sets?, Function.comp_def]
  rw [Block.setNames, Block.lines_ofUnit, Block.opening, List.filterMap_append,
    List.filterMap_append, hdefines, hrenamings, List.filterMap_cons_none rfl, hfreed,
    List.append_nil, Block.names]

/-- The block of a unit is closed. -/
theorem Block.isClosed_ofUnit (u : SourceUnit) (common : CommonDefines) (table : RenamingTable) :
    (Block.ofUnit u common table).IsClosed := by
  intro m name
  rw [Macros.run_block_apply, Block.setNames_ofUnit]

/-- All blocks of a merged source are closed. -/
theorem Plan.isClosed_of_mem_build (p : Plan) (units : List SourceUnit) (common : CommonDefines)
    (skip : SkipSet) (table : RenamingTable) (b : Block)
    (hb : b ∈ (p.build units common skip table).blocks) : b.IsClosed := by
  rcases List.mem_cons.mp hb with rfl | hunit
  · exact Block.isClosed_bootstrap
  · obtain ⟨u, -, rfl⟩ := List.mem_map.mp hunit
    exact Block.isClosed_ofUnit u common table

/-- Closed blocks one after the other free the names that any of them sets and leave all others as
they were. -/
theorem Macros.run_closedBlocks_apply (m : Macros) (blocks : List Block)
    (hclosed : ∀ b ∈ blocks, b.IsClosed) (name : String) :
    m.run (blocks.flatMap Block.lines) name =
      if ∃ b ∈ blocks, name ∈ b.setNames then none else m name := by
  induction blocks generalizing m with
  | nil => simp [run]
  | cons b blocks ih =>
    have hrest := ih (m.run b.lines) fun c hc => hclosed c (List.mem_cons_of_mem b hc)
    rw [List.flatMap_cons, run_append, hrest, hclosed b List.mem_cons_self m name]
    by_cases hb : name ∈ b.setNames
    · simp [hb]
    · simp [hb]

/-- In front of every block of a merged source the names that earlier blocks set are free and all
others mean what the command line says. -/
theorem Plan.macrosBefore_build_apply (p : Plan) (units : List SourceUnit) (common : CommonDefines)
    (skip : SkipSet) (table : RenamingTable) (number : Nat) (name : String) :
    (p.build units common skip table).macrosBefore number name =
      if ∃ b ∈ (p.build units common skip table).blocks.take number, name ∈ b.setNames then none
      else Macros.ofFlags (p.build units common skip table).globalFlags name := by
  rw [Source.macrosBefore]
  apply Macros.run_closedBlocks_apply
  intro b hb
  exact p.isClosed_of_mem_build units common skip table b (List.mem_of_mem_take hb)

/-- A block hands on the macros that were in force in front of it, and no block leaks any of its
own. At the include of a unit the macros in force are those from in front of the block, under the
unit's own definitions, the last of each name, under its renamings. Behind the block, exactly the
names of these definitions and renamings are free and all others are as they were. In a merged
source, a name that a line of some block sets is free in front of every later block, and a name that
no line of the blocks before has touched means what the command line says. -/
theorem blocks_leak_no_macro (p : Plan) (units : List SourceUnit) (common : CommonDefines)
    (skip : SkipSet) (table : RenamingTable) :
    (∀ (u : SourceUnit) (m : Macros),
      m.contexts (Block.ofUnit u common table).lines =
        [(u.path, Block.macrosInside u common table m)] ∧
      ∀ name, m.run (Block.ofUnit u common table).lines name =
        if name ∈ (common.localDefines u).map Define.macroName ∨
          name ∈ table.identifiersFor u.path then none else m name) ∧
    ∀ (number : Nat) (name : String),
      ((∃ b ∈ (p.build units common skip table).blocks.take number,
          ∃ line ∈ b.lines, line.sets? = some name) →
        (p.build units common skip table).macrosBefore number name = none) ∧
      ((∀ b ∈ (p.build units common skip table).blocks.take number,
          ∀ line ∈ b.lines, line.names? ≠ some name) →
        (p.build units common skip table).macrosBefore number name =
          Macros.ofFlags (p.build units common skip table).globalFlags name) := by
  constructor
  · intro u m
    refine ⟨m.contexts_ofUnit u common table, ?_⟩
    intro name
    simp only [Macros.run_block_apply, Block.mem_names_iff]
  · intro number name
    rw [p.macrosBefore_build_apply units common skip table number name]
    constructor
    · rintro ⟨b, hb, line, hline, hsets⟩
      exact if_pos ⟨b, hb, List.mem_filterMap.mpr ⟨line, hline, hsets⟩⟩
    · intro huntouched
      apply if_neg
      rintro ⟨b, hb, hname⟩
      obtain ⟨line, hline, hsets⟩ := List.mem_filterMap.mp hname
      exact huntouched b hb line hline (line.names?_of_sets? name hsets)

/-- Two units that share one definition. The first one has a macro with parameters that is defined
twice, and a definition whose name is renamed in its file. -/
def repeatingUnits : List SourceUnit :=
  [⟨⟨"/p/x.c"⟩, "x.c", ["-DANS=1", "-DMAX(a)=a", "-DMAX(a,b)=b", "-Dhelper=2"],
      [⟨"ANS", some "1", "-DANS=1"⟩, ⟨"MAX(a)", some "a", "-DMAX(a)=a"⟩,
        ⟨"MAX(a,b)", some "b", "-DMAX(a,b)=b"⟩, ⟨"helper", some "2", "-Dhelper=2"⟩], []⟩,
    ⟨⟨"/p/y.c"⟩, "y.c", ["-DANS=1"], [⟨"ANS", some "1", "-DANS=1"⟩], []⟩]

/-- The first file sees the second definition of the macro and the new name instead of the
definition; in front of the next block both names are free, and the shared one is as it was. -/
theorem repeatingUnits_leak_no_macro :
    let table := RenamingTable.ofList [("x.c", "helper")]
    let s := Plan.sample.build repeatingUnits (.hoist repeatingUnits) .empty table
    (∃ b ∈ s.blocks.take 2, ∃ line ∈ b.lines, line.sets? = some "MAX") ∧
      (∀ b ∈ s.blocks.take 2, ∀ line ∈ b.lines, line.names? ≠ some "ANS") ∧
      ((s.macrosBefore 1).contexts
          (Block.ofUnit repeatingUnits[0] (.hoist repeatingUnits) table).lines).map
            (fun context => (context.2 "MAX", context.2 "helper")) =
          [(some "#define MAX(a,b) b", some "#define helper x_c__helper")] ∧
      s.macrosBefore 2 "MAX" = none ∧ s.macrosBefore 2 "ANS" = some "#define ANS 1" := by
  intro table s
  obtain ⟨hblock, hsource⟩ :=
    blocks_leak_no_macro Plan.sample repeatingUnits (.hoist repeatingUnits) .empty table
  have hset : ∃ b ∈ s.blocks.take 2, ∃ line ∈ b.lines, line.sets? = some "MAX" := by decide
  have huntouched : ∀ b ∈ s.blocks.take 2, ∀ line ∈ b.lines, line.names? ≠ some "ANS" := by decide
  refine ⟨hset, huntouched, ?_, (hsource 2 "MAX").1 hset, ?_⟩
  · rw [(hblock repeatingUnits[0] (s.macrosBefore 1)).1]
    decide
  · rw [(hsource 2 "ANS").2 huntouched]
    decide

end UnityBuild.Unity
