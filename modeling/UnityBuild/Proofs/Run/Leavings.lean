import UnityBuild.Proofs.FileSystem.Holding
import UnityBuild.Proofs.Run.Again
import UnityBuild.Proofs.Run.Refusals

/-!
# What a run leaves behind

With a compiler that changes no file, a run changes what its outputs lead to, makes directories that
are missing, and does nothing else to the files. How far it came can be seen in its outputs: they
hold the source of the first stage when the clashes in it did not become known, and the source of the
second stage behind this. What is written to a path is there in the end unless the path leads to a
device, or the source and its database are one file under two names, see
`linked_source_holds_database`.

Main definition: `Unity.Source.StandsIn`. Main statement: `run_leaves`.
-/

namespace UnityBuild

/-- A merged source stands in the files: its text and its database are read at its paths, unless
these lead to devices. When both lead to one plain file, the database is there, which is written
last. The database has a text. -/
structure Unity.Source.StandsIn (source : Unity.Source) (files : FileSystem) : Prop where
  text : files.Apart source.artifacts.source source.artifacts.database →
    files.ReadsAs source.artifacts.source source.text
  database : ∃ text, source.databaseText? = some text ∧ files.ReadsAs source.artifacts.database text

/-- A merged source that was written stands in the files. -/
theorem Unity.Source.standsIn_of_write (source : Unity.Source) (fs fs' : FileSystem)
    (h : source.write fs = (.ok (), fs')) : source.StandsIn fs' := by
  obtain ⟨text, middle, hprinted, htext, hdatabase⟩ := (source.write_eq_ok_iff fs fs').mp h
  have hgrows := FileSystem.evolves_of_writeWithParents [source.artifacts.database] middle fs' _ _
    List.mem_cons_self hdatabase
  constructor
  · intro hapart
    exact ((FileSystem.holds_of_writeWithParents htext).of_evolves _ hgrows hapart).readsAs
  · exact ⟨text, hprinted, (FileSystem.holds_of_writeWithParents hdatabase).readsAs⟩

/-- When the paths of a merged source and its database lead to one plain file, the database is read
from both. -/
theorem Unity.Source.StandsIn.readText_of_together {source : Unity.Source} {files : FileSystem}
    (h : source.StandsIn files) (place : Location)
    (hsource : files.locate source.artifacts.source = .ok place)
    (hdatabase : files.locate source.artifacts.database = .ok place)
    (hfile : files.isFileAt place = true) :
    ∃ text, source.databaseText? = some text ∧
      files.readText source.artifacts.source = .ok text := by
  have hsame : files.readText source.artifacts.source = files.readText source.artifacts.database := by
    simp only [FileSystem.readText, FileSystem.readBytes_eq, hsource, hdatabase]
  obtain ⟨text, hprinted, hread | ⟨device, hdevice⟩⟩ := h.database
  · exact ⟨text, hprinted, hsame.trans hread⟩
  · obtain ⟨content, rights, hcontent⟩ := (files.isFileAt_iff place).mp hfile
    rw [FileSystem.entryAt, hdatabase] at hdevice
    simp only [bind, Except.bind, FileSystem.present, hcontent] at hdevice
    cases hdevice

namespace Settings

/-- The source of a stage that was written stands in the files. -/
theorem Inputs.Staged.standsIn {known : Inputs} {table : RenamingTable} {before after : RunState}
    (h : known.Staged table before after) : (known.merged table).StandsIn after.files :=
  (known.merged table).standsIn_of_write _ _ h.written

/-- Reading the inputs calls no compiler. -/
theorem calls_of_prepare (s : Settings) (start prepared : RunState) (known : Inputs)
    (h : s.prepare start = (.ok known, prepared)) : prepared.calls = start.calls := by
  obtain ⟨-, -, -, -, hcalls⟩ := (s.prepare_eq_ok_iff start prepared known).mp h
  exact hcalls

variable (s : Settings) (answer : Invocation → FileSystem → Except CompilerError CompilerOutput)
  (compiler : Compiler) (fs : FileSystem) (state : RunState)

/-- Nothing was asked before the source of the first stage is written. -/
theorem calls_of_staged (known : Inputs) (prepared staged : RunState)
    (hprepare : s.prepare ⟨fs, []⟩ = (.ok known, prepared))
    (hfirst : known.Staged .empty prepared staged) : staged.calls = [] :=
  hfirst.calls.trans (s.calls_of_prepare _ _ known hprepare)

/-- Behind the first stage a run has made one call. -/
theorem calls_of_asked (known : Inputs) (prepared staged : RunState)
    (hprepare : s.prepare ⟨fs, []⟩ = (.ok known, prepared))
    (hfirst : known.Staged .empty prepared staged) :
    ((known.merged .empty).asked compiler staged).calls = [(known.merged .empty).call staged] := by
  rw [Unity.Source.asked, s.calls_of_staged fs known prepared staged hprepare hfirst]
  rfl

/-- Behind a second stage that is asked about, a run has made two calls. -/
theorem calls_of_asked_again (known : Inputs) (prepared staged written : RunState)
    (table : RenamingTable) (hprepare : s.prepare ⟨fs, []⟩ = (.ok known, prepared))
    (hfirst : known.Staged .empty prepared staged)
    (hsecond : known.Staged table ((known.merged .empty).asked compiler staged) written) :
    ((known.merged table).asked compiler written).calls =
      [(known.merged .empty).call staged, (known.merged table).call written] := by
  rw [Unity.Source.asked, hsecond.calls,
    s.calls_of_asked compiler fs known prepared staged hprepare hfirst]
  rfl

/-- When the clashes in the first stage did not become known, its source stands in the files. -/
theorem standsIn_of_resolve_error (e : ResolveError)
    (hrun : s.run (.ofFunction answer) ⟨fs, []⟩ = (.error (.resolve e), state)) :
    ∃ known call, (s.prepare ⟨fs, []⟩).1 = .ok known ∧ state.calls = [call] ∧
      Resolution.ofAnswer s.root (answer call.invocation call.files) = .error e ∧
      (known.merged .empty).StandsIn state.files := by
  cases s.outcome_of_run _ _ _ _ hrun with
  | unprepared _ _ hprepare => cases s.refusal_of_prepare _ _ _ hprepare
  | unresolved known prepared staged _ hprepare hfirst hanswer =>
    exact ⟨known, _, congrArg Prod.fst hprepare,
      s.calls_of_asked _ fs known prepared staged hprepare hfirst, hanswer, hfirst.standsIn⟩

/-- When the clashes in the second stage did not become known, its source stands in the files; it was
built with the renamings from the first answer. -/
theorem standsIn_of_verify_error (e : ResolveError)
    (hrun : s.run (.ofFunction answer) ⟨fs, []⟩ = (.error (.verify e), state)) :
    ∃ known first second resolution, (s.prepare ⟨fs, []⟩).1 = .ok known ∧
      state.calls = [first, second] ∧
      Resolution.ofAnswer s.root (answer first.invocation first.files) = .ok resolution ∧
      Resolution.ofAnswer s.root (answer second.invocation second.files) = .error e ∧
      (known.merged resolution.table).StandsIn state.files := by
  cases s.outcome_of_run _ _ _ _ hrun with
  | unprepared _ _ hprepare => cases s.refusal_of_prepare _ _ _ hprepare
  | unverified known prepared staged written resolution _ hprepare hfirst hanswer hsecond _ hagain =>
    exact ⟨known, _, _, resolution, congrArg Prod.fst hprepare,
      s.calls_of_asked_again _ fs known prepared staged written _ hprepare hfirst hsecond, hanswer,
      hagain, hsecond.standsIn⟩

/-- When a run went through, the source that it reports stands in the files; it was built with the
renamings from the first answer. -/
theorem standsIn_of_report (report : Report)
    (hrun : s.run (.ofFunction answer) ⟨fs, []⟩ = (.ok report, state)) :
    ∃ known first rest, (s.prepare ⟨fs, []⟩).1 = .ok known ∧ state.calls = first :: rest ∧
      Resolution.ofAnswer s.root (answer first.invocation first.files) = .ok report.resolution ∧
      report.source = known.merged report.resolution.table ∧
      report.source.StandsIn state.files := by
  cases s.outcome_of_run _ _ _ _ hrun with
  | unchecked known prepared staged _ resolution hprepare hfirst hanswer hsecond _ =>
    exact ⟨known, _, [], congrArg Prod.fst hprepare,
      hsecond.calls.trans (s.calls_of_asked _ fs known prepared staged hprepare hfirst), hanswer, rfl,
      hsecond.standsIn⟩
  | checked known prepared staged written resolution _ hprepare hfirst hanswer hsecond _ _ =>
    exact ⟨known, _, [(known.merged resolution.table).call written], congrArg Prod.fst hprepare,
      s.calls_of_asked_again _ fs known prepared staged written _ hprepare hfirst hsecond, hanswer, rfl,
      hsecond.standsIn⟩

/-- Whatever comes of a run with a compiler that changes no file, every plain file stays one, and what
stands at a place to which no output leads stays there, except that a directory may be made where
nothing stood. When the clashes in the first stage did not become known, the outputs hold the source
of the first stage. When the run went through or failed behind this, they hold the source with the
renamings that follow from the first answer of the compiler, and this is what the run reports. -/
theorem run_leaves (result : Except RunError Report)
    (hrun : s.run (.ofFunction answer) ⟨fs, []⟩ = (result, state)) :
    (∀ place, fs.isFileAt place = true → state.files.isFileAt place = true) ∧
      (∀ place, (∀ output ∈ s.outputs, ¬ state.files.Writes output place) →
        state.files.get? place = fs.get? place ∨
          fs.get? place = none ∧ state.files.get? place = some .directory) ∧
      (∀ e, result = .error (.resolve e) →
        ∃ known call, (s.prepare ⟨fs, []⟩).1 = .ok known ∧ state.calls = [call] ∧
          Resolution.ofAnswer s.root (answer call.invocation call.files) = .error e ∧
          (known.merged .empty).StandsIn state.files) ∧
      (∀ e, result = .error (.verify e) →
        ∃ known first second resolution, (s.prepare ⟨fs, []⟩).1 = .ok known ∧
          state.calls = [first, second] ∧
          Resolution.ofAnswer s.root (answer first.invocation first.files) = .ok resolution ∧
          Resolution.ofAnswer s.root (answer second.invocation second.files) = .error e ∧
          (known.merged resolution.table).StandsIn state.files) ∧
      ∀ report, result = .ok report →
        ∃ known first rest, (s.prepare ⟨fs, []⟩).1 = .ok known ∧ state.calls = first :: rest ∧
          Resolution.ofAnswer s.root (answer first.invocation first.files) = .ok report.resolution ∧
          report.source = known.merged report.resolution.table ∧
          report.source.StandsIn state.files := by
  have hgrows : fs.Evolves s.outputs state.files := by
    have hmoves := s.moves_run answer ⟨fs, []⟩
    rwa [hrun] at hmoves
  refine ⟨hgrows.isFileAt, hgrows.get?_eq_or, ?_, ?_, ?_⟩
  · rintro e rfl
    exact s.standsIn_of_resolve_error answer fs state e hrun
  · rintro e rfl
    exact s.standsIn_of_verify_error answer fs state e hrun
  · rintro report rfl
    exact s.standsIn_of_report answer fs state report hrun

/-- A run of a project with a clashing name leaves the source in which it is renamed, and the skip list
that was there is still a file. -/
theorem run_leaves_clashingProject :
    ∃ report state,
      (ofName ⟨"/p"⟩ "app").run (.ofFunction clashingAnswer) ⟨clashingProject, []⟩ =
          (.ok report, state) ∧
        report.resolution.table.pairs = [("a.c", "f")] ∧
        state.files.isFileAt ["p", "amalgamated", "files_with_errors.txt"] = true ∧
        state.files.ReadsAs report.source.artifacts.source report.source.text := by
  generalize hrun : (ofName ⟨"/p"⟩ "app").run (.ofFunction clashingAnswer) ⟨clashingProject, []⟩ = ran
  have hreport : (ran.1.toOption.map fun report => (report.resolution.table.pairs,
      decide (ran.2.files.Apart report.source.artifacts.source report.source.artifacts.database))) =
        some ([("a.c", "f")], true) := by
    rw [← hrun]
    decide +kernel
  obtain ⟨result, state⟩ := ran
  obtain ⟨hfiles, -, -, -, hleaves⟩ := run_leaves _ _ _ state result hrun
  cases result with
  | error e => cases hreport
  | ok report =>
    obtain ⟨hpairs, hapart⟩ := Prod.mk.inj (Option.some.inj hreport)
    obtain ⟨_, _, _, _, _, _, _, hstands⟩ := hleaves report rfl
    exact ⟨report, state, rfl, hpairs, hfiles _ rfl, hstands.text (of_decide_eq_true hapart)⟩

/-- A project in which the path of the merged source is a link to its database, which is not there
yet. -/
def linkedSourceProject : FileSystem :=
  { entries := [(["p"], .directory),
      (["p", "compile_commands.json"], .file (Text.encode "[]") .ofNew),
      (["p", "amalgamated"], .directory),
      (["p", "amalgamated", "app.c"], .link "compile_commands.json")]
    workingDirectory := [] }

/-- With a link from the merged source to its database a run succeeds, and leaves the database where
the merged source should be. -/
theorem linked_source_holds_database :
    ∃ report state text,
      (ofName ⟨"/p"⟩ "app").run (.ofFunction silentAnswer) ⟨linkedSourceProject, []⟩ =
          (.ok report, state) ∧
        report.source.databaseText? = some text ∧
        state.files.readText report.source.artifacts.source = .ok text ∧
        text ≠ report.source.text := by
  generalize hrun : (ofName ⟨"/p"⟩ "app").run (.ofFunction silentAnswer) ⟨linkedSourceProject, []⟩ =
    ran
  have hreport : (ran.1.toOption.map fun report =>
      (ran.2.files.locate report.source.artifacts.source,
        ran.2.files.locate report.source.artifacts.database,
        ran.2.files.isFileAt ["p", "amalgamated", "compile_commands.json"],
        decide (report.source.databaseText? = some report.source.text))) =
      some (.ok ["p", "amalgamated", "compile_commands.json"],
        .ok ["p", "amalgamated", "compile_commands.json"], true, false) := by
    rw [← hrun]
    decide +kernel
  obtain ⟨result, state⟩ := ran
  cases result with
  | error e => cases hreport
  | ok report =>
    simp only [Except.toOption, Option.map_some, Option.some.injEq, Prod.mk.injEq] at hreport
    obtain ⟨hsource, hdatabase, hfile, htexts⟩ := hreport
    obtain ⟨_, _, _, _, _, _, _, hstands⟩ := standsIn_of_report _ _ _ state report hrun
    obtain ⟨text, hprinted, hread⟩ := hstands.readText_of_together _ hsource hdatabase hfile
    refine ⟨report, state, text, rfl, hprinted, hread, ?_⟩
    rintro rfl
    exact of_decide_eq_false htexts hprinted

end Settings

end UnityBuild
