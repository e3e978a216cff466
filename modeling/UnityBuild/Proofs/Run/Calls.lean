import UnityBuild.Proofs.Run.Leavings

/-!
# What is compiled

A run asks the compiler about the source of the first stage and, when the final source is to be
checked, about that of the second stage. Each call compiles the source as the record in its database
says and sees files in which both stand; the compiler may be any program, and may change files. The
renamings that follow from the first answer change neither the record nor the call.

Main definition: `CompilerCall.Compiles`. Main statement: `run_calls`.
-/

namespace UnityBuild

/-- A call compiles a merged source that stands in its files. It is made in the directory that the
record of the source names, and its arguments are those of the record with the flag for diagnostics
in front of the object and the source. -/
structure CompilerCall.Compiles (call : CompilerCall) (source : Unity.Source) : Prop where
  directory : call.invocation.directory = source.compileRecord.directory
  arguments : ∃ front back,
    back = ["-o", source.artifacts.object.display, "-c", source.artifacts.source.display] ∧
      source.compileRecord.arguments = some (front ++ back) ∧
      call.invocation.arguments = front ++ "-fdiagnostics-format=json" :: back
  stands : source.StandsIn call.files

/-- The call about a merged source that stands in the files compiles it. -/
theorem Unity.Source.compiles_call (source : Unity.Source) (state : RunState)
    (h : source.StandsIn state.files) : (source.call state).Compiles source := by
  refine ⟨rfl, ⟨source.compiler :: source.globalFlags, _, rfl, ?_, ?_⟩, h⟩
  · simp only [compileRecord, compile, compileWith, invocation, List.append_nil]
  · simp only [call, compileWith, invocation, diagnosticFlags, List.append_assoc, List.cons_append,
      List.nil_append]

namespace Settings

/-- The calls about the sources of both stages are the same. -/
theorem Inputs.invocation_call (known : Inputs) (table table' : RenamingTable)
    (state state' : RunState) :
    ((known.merged table).call state).invocation = ((known.merged table').call state').invocation :=
  rfl

variable (s : Settings) (compiler : Compiler) (fs : FileSystem) (state : RunState)

/-- The first call of a run compiles the source of the first stage, and the compiler has not been
asked before. -/
theorem compiles_first (known : Inputs) (prepared staged : RunState)
    (hprepare : s.prepare ⟨fs, []⟩ = (.ok known, prepared))
    (hfirst : known.Staged .empty prepared staged) :
    ((known.merged .empty).call staged).Compiles (known.merged .empty) ∧
      (known.merged .empty).answer compiler staged =
        (compiler [] ((known.merged .empty).call staged).invocation
          ((known.merged .empty).call staged).files).1 ∧
      ((known.merged .empty).asked compiler staged).calls = [(known.merged .empty).call staged] := by
  refine ⟨(known.merged .empty).compiles_call staged hfirst.standsIn, ?_,
    s.calls_of_asked compiler fs known prepared staged hprepare hfirst⟩
  rw [Unity.Source.answer, s.calls_of_staged fs known prepared staged hprepare hfirst]
  rfl

/-- A run that went through has made two calls when the final source is checked, and one otherwise. -/
theorem length_calls_of_report (report : Report)
    (hrun : s.run compiler ⟨fs, []⟩ = (.ok report, state)) :
    state.calls.length = if s.verify then 2 else 1 := by
  cases s.outcome_of_run _ _ _ _ hrun with
  | unchecked known prepared staged _ resolution hprepare hfirst _ hsecond hverify =>
    rw [hverify, hsecond.calls, s.calls_of_asked compiler fs known prepared staged hprepare hfirst]
    rfl
  | checked known prepared staged written resolution _ hprepare hfirst _ hsecond hverify _ =>
    rw [hverify,
      s.calls_of_asked_again compiler fs known prepared staged written _ hprepare hfirst hsecond]
    rfl

/-- The second call of a run compiles the source of the second stage, and is the same as the first. -/
theorem compiles_second (known : Inputs) (prepared staged written : RunState)
    (resolution : Resolution) (hprepare : s.prepare ⟨fs, []⟩ = (.ok known, prepared))
    (hfirst : known.Staged .empty prepared staged)
    (hsecond : known.Staged resolution.table ((known.merged .empty).asked compiler staged) written) :
    ((known.merged resolution.table).asked compiler written).calls =
        [(known.merged .empty).call staged, (known.merged resolution.table).call written] ∧
      ((known.merged resolution.table).call written).Compiles (known.merged resolution.table) ∧
      ((known.merged resolution.table).call written).invocation =
        ((known.merged .empty).call staged).invocation := by
  exact ⟨s.calls_of_asked_again compiler fs known prepared staged written _ hprepare hfirst hsecond,
    (known.merged resolution.table).compiles_call written hsecond.standsIn,
    known.invocation_call _ _ written staged⟩

/-- A run makes at most two calls. The first compiles the source of the first stage; the second is
made only when the final source is to be checked and the first was answered, and it compiles the
source with the renamings that follow from this answer, which is also the source that a run reports.
Both calls are the same, and a run that went through has made both exactly when the final source is
to be checked. -/
theorem run_calls (result : Except RunError Report)
    (hrun : s.run compiler ⟨fs, []⟩ = (result, state)) :
    (∀ report, result = .ok report → state.calls.length = if s.verify then 2 else 1) ∧
      (state.calls = [] ∨
        ∃ known first, (s.prepare ⟨fs, []⟩).1 = .ok known ∧ first.Compiles (known.merged .empty) ∧
          (∀ report, result = .ok report →
            Resolution.ofAnswer s.root (compiler [] first.invocation first.files).1 =
                .ok report.resolution ∧
              report.source = known.merged report.resolution.table) ∧
          (state.calls = [first] ∨
            ∃ resolution second, state.calls = [first, second] ∧ s.verify = true ∧
              Resolution.ofAnswer s.root (compiler [] first.invocation first.files).1 =
                .ok resolution ∧
              second.Compiles (known.merged resolution.table) ∧
              second.invocation = first.invocation)) := by
  constructor
  · rintro report rfl
    exact s.length_calls_of_report compiler fs state report hrun
  cases s.outcome_of_run _ _ _ _ hrun with
  | unprepared e _ hprepare => exact .inl (s.refusal_of_prepare _ _ e hprepare).calls_eq
  | unwritten known prepared e files hprepare _ => exact .inl (s.calls_of_prepare _ _ known hprepare)
  | unresolved known prepared staged e hprepare hfirst _ =>
    obtain ⟨hcompiles, -, hasked⟩ := s.compiles_first compiler fs known prepared staged hprepare hfirst
    refine .inr ⟨known, _, congrArg Prod.fst hprepare, hcompiles, ?_, .inl hasked⟩
    rintro report ⟨⟩
  | unfinished known prepared staged _ e files hprepare hfirst _ _ =>
    obtain ⟨hcompiles, -, hasked⟩ := s.compiles_first compiler fs known prepared staged hprepare hfirst
    refine .inr ⟨known, _, congrArg Prod.fst hprepare, hcompiles, ?_, .inl hasked⟩
    rintro report ⟨⟩
  | unverified known prepared staged written resolution e hprepare hfirst hanswer hsecond hverify _ =>
    obtain ⟨hcompiles, hasks, -⟩ := s.compiles_first compiler fs known prepared staged hprepare hfirst
    obtain ⟨hcalls, hagain, hsame⟩ := s.compiles_second compiler fs known prepared staged written
      resolution hprepare hfirst hsecond
    rw [hasks] at hanswer
    refine .inr ⟨known, _, congrArg Prod.fst hprepare, hcompiles, ?_,
      .inr ⟨resolution, _, hcalls, hverify, hanswer, hagain, hsame⟩⟩
    rintro report ⟨⟩
  | unchecked known prepared staged _ resolution hprepare hfirst hanswer hsecond _ =>
    obtain ⟨hcompiles, hasks, hasked⟩ :=
      s.compiles_first compiler fs known prepared staged hprepare hfirst
    rw [hasks] at hanswer
    refine .inr ⟨known, _, congrArg Prod.fst hprepare, hcompiles, ?_, .inl (hsecond.calls.trans hasked)⟩
    rintro report ⟨⟩
    exact ⟨hanswer, rfl⟩
  | checked known prepared staged written resolution _ hprepare hfirst hanswer hsecond hverify _ =>
    obtain ⟨hcompiles, hasks, -⟩ := s.compiles_first compiler fs known prepared staged hprepare hfirst
    obtain ⟨hcalls, hagain, hsame⟩ := s.compiles_second compiler fs known prepared staged written
      resolution hprepare hfirst hsecond
    rw [hasks] at hanswer
    refine .inr ⟨known, _, congrArg Prod.fst hprepare, hcompiles, ?_,
      .inr ⟨resolution, _, hcalls, hverify, hanswer, hagain, hsame⟩⟩
    rintro report ⟨⟩
    exact ⟨hanswer, rfl⟩

/-- The settings of a run that checks the final source. -/
def checkingSettings : Settings :=
  ofLayer ⟨"/p"⟩ "app" { verify := some true }

/-- A checking run of a project with a clashing name compiles both stages, the second with the name
renamed. -/
theorem run_calls_clashingProject :
    ∃ (known : Inputs) (resolution : Resolution) (first second : CompilerCall),
      (checkingSettings.run (.ofFunction clashingAnswer) ⟨clashingProject, []⟩).2.calls =
          [first, second] ∧
        resolution.table.pairs = [("a.c", "f")] ∧
        first.Compiles (known.merged .empty) ∧ second.Compiles (known.merged resolution.table) := by
  generalize hrun : checkingSettings.run (.ofFunction clashingAnswer) ⟨clashingProject, []⟩ = ran
  have hreport : (ran.1.toOption.map fun report => report.resolution.table.pairs) =
      some [("a.c", "f")] := by
    rw [← hrun]
    decide +kernel
  obtain ⟨result, state⟩ := ran
  obtain ⟨hlength, hcalls⟩ := run_calls _ _ _ state result hrun
  cases result with
  | error e => cases hreport
  | ok report =>
    have htwo : state.calls.length = 2 := hlength report rfl
    rcases hcalls with hnone | ⟨known, first, -, hfirst, hreported, hone |
      ⟨resolution, second, htogether, -, hanswer, hsecond, -⟩⟩
    · rw [hnone] at htwo
      cases htwo
    · rw [hone] at htwo
      cases htwo
    · have hsame : resolution = report.resolution :=
        Except.ok.inj (hanswer.symm.trans (hreported report rfl).1)
      have hpairs : resolution.table.pairs = [("a.c", "f")] := by
        rw [hsame]
        exact Option.some.inj hreport
      exact ⟨known, resolution, first, second, htogether, hpairs, hfirst, hsecond⟩

/-- With a link from the merged source to its database a run goes through, so all that it wrote was
written. The compiler is called once, and sees the database where the source of the first stage should
be. -/
theorem linked_source_is_not_compiled :
    ∃ (known : Inputs) (report : Report) (state : RunState) (call : CompilerCall) (text : String),
      ((ofName ⟨"/p"⟩ "app").prepare ⟨linkedSourceProject, []⟩).1 = .ok known ∧
        (ofName ⟨"/p"⟩ "app").run (.ofFunction silentAnswer) ⟨linkedSourceProject, []⟩ =
          (.ok report, state) ∧
        state.calls = [call] ∧
        (known.merged .empty).databaseText? = some text ∧
        call.files.readText (known.merged .empty).artifacts.source = .ok text ∧
        text ≠ (known.merged .empty).text := by
  generalize hrun : (ofName ⟨"/p"⟩ "app").run (.ofFunction silentAnswer) ⟨linkedSourceProject, []⟩ =
    ran
  obtain ⟨hdone, hseen⟩ : ran.1.toOption.isSome = true ∧ ∀ call ∈ ran.2.calls,
      (call.files.locate ⟨"/p/amalgamated/app.c"⟩ =
          .ok ["p", "amalgamated", "compile_commands.json"] ∧
        call.files.locate ⟨"/p/amalgamated/compile_commands.json"⟩ =
          .ok ["p", "amalgamated", "compile_commands.json"]) ∧
        call.files.isFileAt ["p", "amalgamated", "compile_commands.json"] = true := by
    rw [← hrun]
    decide +kernel
  have hknown : (((ofName ⟨"/p"⟩ "app").prepare ⟨linkedSourceProject, []⟩).1.toOption.map
      fun known => ((known.merged .empty).artifacts.source, (known.merged .empty).artifacts.database,
        decide ((known.merged .empty).databaseText? = some (known.merged .empty).text))) =
      some (⟨"/p/amalgamated/app.c"⟩, ⟨"/p/amalgamated/compile_commands.json"⟩, false) := by
    decide +kernel
  obtain ⟨result, state⟩ := ran
  cases result with
  | error e => cases hdone
  | ok report =>
    cases outcome_of_run _ _ _ _ _ hrun with
    | checked _ _ _ _ _ _ _ _ _ _ hverify _ => cases hverify
    | unchecked known prepared staged _ resolution hprepare hfirst _ hsecond _ =>
      obtain ⟨hcompiles, -, hasked⟩ := compiles_first _ _ _ known prepared staged hprepare hfirst
      have hcalls := hsecond.calls.trans hasked
      rw [hprepare] at hknown
      simp only [Except.toOption, Option.map_some, Option.some.injEq, Prod.mk.injEq] at hknown
      obtain ⟨hsource, hdatabase, htexts⟩ := hknown
      obtain ⟨⟨hlocate, hlocate'⟩, hfile⟩ := hseen ((known.merged .empty).call staged) (by simp [hcalls])
      rw [← hsource] at hlocate
      rw [← hdatabase] at hlocate'
      obtain ⟨text, hprinted, hread⟩ :=
        hcompiles.stands.readText_of_together _ hlocate hlocate' hfile
      refine ⟨known, _, state, _, text, congrArg Prod.fst hprepare, rfl, hcalls, hprinted, hread, ?_⟩
      rintro rfl
      exact of_decide_eq_false htexts hprinted

end Settings

end UnityBuild
