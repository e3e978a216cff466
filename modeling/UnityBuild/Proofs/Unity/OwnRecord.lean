import UnityBuild.Proofs.Artifact
import UnityBuild.Proofs.Command.Flags
import UnityBuild.Proofs.Command.Reader
import UnityBuild.Proofs.Command.Shape
import UnityBuild.Proofs.Database

/-!
# The merged source as a source file of its own

A run leaves a database behind that describes how the merged source is compiled. It has a text exactly
when texts write the root and the directory of the artifacts, and then it can be given to the tool
again: its record is read back, and the command in it has the shape that commands have by default. No
flag of the merged source is the option `-D` by itself and each of its definitions names a macro, so the
flags go through the reading unchanged.

Main statement: `Plan.read_compileRecord_build`.
-/

namespace UnityBuild

namespace Command

/-- A command of the standard shape gives the flags in it. -/
theorem Shape.flags_standard (compiler output input : String) (flags : List String) :
    Shape.standard.flags (compiler :: flags ++ ["-o", output, "-c", input]) = .ok flags := by
  refine (standard.flags_eq_ok_iff _ flags).mpr
    ⟨[compiler], ["-o", output, "-c", input], rfl, ?_, ?_⟩
  · exact .cons rfl .nil
  · exact .cons rfl (.cons rfl (.cons rfl (.cons rfl .nil)))

/-- Joining leaves flags as they are when none of them is the option by itself. -/
theorem joinDefines_eq_self (flags : List String) (h : "-D" ∉ flags) :
    joinDefines flags = .ok flags := by
  induction flags with
  | nil => rfl
  | cons flag flags ih =>
    obtain ⟨hflag, hflags⟩ := not_or.mp (List.mem_cons.not.mp h)
    rw [joinDefines_cons flag flags (Ne.symm hflag), ih hflags]
    rfl

end Command

/-- Flags whose definitions can all be read make a unit with these flags. -/
theorem SourceUnit.exists_ofFlags (source : Path) (path : String) (flags : List String)
    (h : ∀ flag ∈ flags, Define.isDefineFlag flag = true → ∃ d, Define.parse flag = .ok d) :
    ∃ u, ofFlags source path flags = .ok u ∧ u.flags = flags ∧
      u.defineFlags = flags.filter Define.isDefineFlag ∧
      u.others = flags.filter fun flag => !Define.isDefineFlag flag := by
  obtain ⟨u, hu⟩ := (exists_ofFlags_iff source path flags).mpr fun flag hflag hnameless =>
    (Define.exists_parse_iff flag (hnameless.isDefineFlag flag)).mp
      (h flag hflag (hnameless.isDefineFlag flag)) hnameless
  exact ⟨u, hu, flags_of_ofFlags source path flags u hu⟩

namespace Unity.Plan

variable (p : Plan) (units : List SourceUnit) (included : List SourceUnit)

/-- Among the flags of the merged source the shared definitions are those that define a macro. -/
theorem isDefineFlag_iff_of_mem_globalFlags (hmade : ∀ u ∈ units, u.IsMade)
    (hincluded : included ⊆ units) (flag : String)
    (hflag : flag ∈ p.globalFlags included (.hoist units)) :
    Define.isDefineFlag flag = true ↔ flag ∈ (CommonDefines.hoist units).flags := by
  rw [← p.filter_isDefineFlag_globalFlags units included hmade hincluded, List.mem_filter]
  exact ⟨fun h => ⟨hflag, h⟩, fun h => h.2⟩

/-- Each definition among the flags of the merged source can be read. -/
theorem exists_parse_of_mem_globalFlags (hmade : ∀ u ∈ units, u.IsMade)
    (hincluded : included ⊆ units) (flag : String)
    (hflag : flag ∈ p.globalFlags included (.hoist units))
    (hdefine : Define.isDefineFlag flag = true) : ∃ d, Define.parse flag = .ok d := by
  have hshared :=
    (p.isDefineFlag_iff_of_mem_globalFlags units included hmade hincluded flag hflag).mp hdefine
  obtain ⟨u, hu⟩ := List.exists_mem_of_ne_nil units
    ((CommonDefines.mem_hoist_iff units flag).mp hshared).1
  obtain ⟨d, -, hd⟩ := CommonDefines.exists_define_of_mem_hoist units hmade flag hshared u hu
  exact ⟨d, hd⟩

/-- No flag of the merged source is the option that takes the next flag for a definition. -/
theorem bareDefine_notMem_globalFlags (hmade : ∀ u ∈ units, u.IsMade)
    (hincluded : included ⊆ units) : "-D" ∉ p.globalFlags included (.hoist units) := by
  intro hmem
  obtain ⟨d, hd⟩ := p.exists_parse_of_mem_globalFlags units included hmade hincluded "-D" hmem
    (by decide)
  have hnameless : Define.parse "-D" = .error ⟨"-D"⟩ := by decide
  rw [hnameless] at hd
  cases hd

end Unity.Plan

namespace Unity

section Databases

variable (s : Source)

/-- The source and the object of a merged source are among its files. -/
theorem Source.mem_fileNames : s.artifacts.name ++ ".c" ∈ Artifacts.fileNames s.artifacts.name ∧
    s.artifacts.name ++ ".o" ∈ Artifacts.fileNames s.artifacts.name := by
  simp [Artifacts.fileNames, Artifacts.endings]

/-- The record of a merged source names its file and says how it is compiled. -/
theorem Source.isComplete_compileRecord : s.compileRecord.IsComplete where
  file := s.artifacts.file_ne_empty _ s.mem_fileNames.1
  command := .inl ⟨_, rfl, List.cons_ne_nil _ _⟩

/-- Texts write the record of a merged source exactly when they write its root and the directory of its
files. -/
theorem Source.isText_compileRecord_iff :
    s.compileRecord.IsText ↔ s.root.IsText ∧ s.artifacts.directory.IsText := by
  obtain ⟨hsource, hobject⟩ := s.mem_fileNames
  constructor
  · intro h
    exact ⟨h.directory, (s.artifacts.isText_file_iff _ hsource).mp h.file⟩
  · rintro ⟨hroot, hdirectory⟩
    refine ⟨hroot, (s.artifacts.isText_file_iff _ hsource).mpr hdirectory, ?_⟩
    intro path hpath
    rw [← Option.some.inj hpath]
    exact (s.artifacts.isText_file_iff _ hobject).mpr hdirectory

/-- The database of a merged source has a text exactly when texts write its root and the directory of its
files. -/
theorem Source.exists_databaseText?_iff :
    (∃ text, s.databaseText? = some text) ↔ s.root.IsText ∧ s.artifacts.directory.IsText := by
  rw [← s.isText_compileRecord_iff]
  simp only [Source.databaseText?, Database.exists_databaseText?_iff, List.forall_mem_singleton]

/-- The database of a merged source is read as its one record. -/
theorem Source.parse_databaseText? (text : String) (h : s.databaseText? = some text) :
    Database.parse text = .ok [s.compileRecord] := by
  refine (Database.parse_eq_ok_self_iff _ text h).mpr ⟨?_, List.nodup_singleton _⟩
  rw [List.forall_mem_singleton]
  exact s.isComplete_compileRecord

end Databases

/-- The database of a merged source has a text exactly when texts write the root and the directory of
the artifacts. The text is read as its one record, and reading the record under any root gives a unit
with the flags of the merged source. Its definitions are the shared ones in their order, and its other
flags are the remaining ones in theirs. -/
theorem Plan.read_compileRecord_build (p : Plan) (root : Path) (units : List SourceUnit)
    (hmade : ∀ u ∈ units, u.IsMade) (skip : SkipSet) (table : RenamingTable) :
    let source := p.build units (.hoist units) skip table
    ((∃ text, source.databaseText? = some text) ↔ p.root.IsText ∧ p.artifacts.directory.IsText) ∧
      (∀ text, source.databaseText? = some text → Database.parse text = .ok [source.compileRecord]) ∧
      ∃ u, Command.Reader.read ⟨root, .standard, []⟩ source.compileRecord = .ok u ∧
        u.flags = source.globalFlags ∧
        u.defineFlags = (CommonDefines.hoist units).flags ∧
        u.others = source.globalFlags.filter fun flag => !(CommonDefines.hoist units).contains flag := by
  intro source
  have hretained : p.retained skip units ⊆ units := List.filter_subset_self _
  have hflags : source.globalFlags = p.globalFlags (p.retained skip units) (.hoist units) := rfl
  refine ⟨source.exists_databaseText?_iff, source.parse_databaseText?, ?_⟩
  obtain ⟨u, hu, hall, hdefines, hothers⟩ := SourceUnit.exists_ofFlags
    source.compileRecord.sourcePath (source.compileRecord.relativeSource root) source.globalFlags
    (p.exists_parse_of_mem_globalFlags units _ hmade hretained)
  have hkept : Command.Reader.keptFlags ⟨root, .standard, []⟩ source.compileRecord.tokens =
      .ok source.globalFlags := by
    have htokens : source.compileRecord.tokens = source.compiler :: source.globalFlags ++
        ["-o", source.artifacts.object.display, "-c", source.artifacts.source.display] := by
      rw [CompileRecord.tokens, Source.compileRecord, Source.compile, Source.compileWith,
        Source.invocation, List.append_nil]
      rfl
    have hbare : "-D" ∉ source.globalFlags :=
      p.bareDefine_notMem_globalFlags units _ hmade hretained
    rw [Command.Reader.keptFlags, htokens, Command.Shape.flags_standard]
    simp only [bind, Except.bind, pure, Except.pure, Command.joinDefines_eq_self _ hbare,
      List.contains_nil, Bool.not_false, List.filter_true]
  refine ⟨u, ?_, hall, ?_, ?_⟩
  · rw [Command.Reader.read, hkept]
    simp only [Except.mapError, bind, Except.bind, hu]
  · rw [hdefines, hflags, p.filter_isDefineFlag_globalFlags units _ hmade hretained]
  · rw [hothers]
    apply List.filter_congr
    intro flag hflag
    have hsame := p.isDefineFlag_iff_of_mem_globalFlags units _ hmade hretained flag hflag
    rw [Bool.not_inj_iff, Bool.eq_iff_iff, hsame, CommonDefines.contains, List.contains_iff_mem]

/-- Two units with one definition and one flag in common. -/
def alikeUnits : List SourceUnit :=
  [⟨⟨"/p/x.c"⟩, "x.c", ["-DX=1", "-O2"], [⟨"X", some "1", "-DX=1"⟩], ["-O2"]⟩,
    ⟨⟨"/p/y.c"⟩, "y.c", ["-O2", "-DY", "-DX=1"],
      [⟨"Y", none, "-DY"⟩, ⟨"X", some "1", "-DX=1"⟩], ["-O2"]⟩]

/-- The source that is merged from two units has a database, and its record is read as a unit with the
flags that both have and those of the tool. -/
theorem Plan.read_compileRecord_alikeUnits :
    (∀ u ∈ alikeUnits, u.IsMade) ∧
      ∃ text, (Plan.sample.build alikeUnits (.hoist alikeUnits) .empty .empty).databaseText? = some text ∧
        Database.parse text =
          .ok [(Plan.sample.build alikeUnits (.hoist alikeUnits) .empty .empty).compileRecord] ∧
        ∃ u, Command.Reader.read ⟨⟨"/p"⟩, .standard, []⟩
            (Plan.sample.build alikeUnits (.hoist alikeUnits) .empty .empty).compileRecord = .ok u ∧
          u.flags = ["-O2", "-DX=1", "-Wno-unknown-warning-option", "-I/p"] ∧
          u.defineFlags = ["-DX=1"] ∧
          u.others = ["-O2", "-Wno-unknown-warning-option", "-I/p"] := by
  have hmade : ∀ u ∈ alikeUnits, u.IsMade := by
    unfold SourceUnit.IsMade
    decide
  have htexts : Plan.sample.root.IsText ∧ Plan.sample.artifacts.directory.IsText :=
    ⟨⟨"/p", by decide⟩, ⟨"/p/amalgamated", by decide⟩⟩
  obtain ⟨hprinted, hparse, u, hread, hflags, hdefines, hothers⟩ :=
    Plan.read_compileRecord_build .sample ⟨"/p"⟩ alikeUnits hmade .empty .empty
  obtain ⟨text, htext⟩ := hprinted.mpr htexts
  refine ⟨hmade, text, htext, hparse text htext, u, hread, hflags.trans ?_, hdefines.trans ?_,
    hothers.trans ?_⟩
  all_goals decide

/-- A merged source whose root, or whose directory for the artifacts, is not UTF-8 has no database, though
its units are made as all units are. -/
theorem Plan.lost_bytes_leave_no_database :
    (∀ u ∈ alikeUnits, u.IsMade) ∧
      (Plan.build ⟨⟨"/p\xff"⟩, "cc", ⟨⟨"/out"⟩, "app", by decide⟩, defaultTestMarker⟩ alikeUnits
        (.hoist alikeUnits) .empty .empty).databaseText? = none ∧
      (Plan.build ⟨⟨"/p"⟩, "cc", ⟨⟨"/out\xff"⟩, "app", by decide⟩, defaultTestMarker⟩ alikeUnits
        (.hoist alikeUnits) .empty .empty).databaseText? = none := by
  refine ⟨?_, by decide +kernel, by decide +kernel⟩
  unfold SourceUnit.IsMade
  decide

end Unity

end UnityBuild
